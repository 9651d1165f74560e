import BlockHeap.Proofs.Links

/-!
# Edits of the sequences

Putting a block in front of a class and taking one out are all that is ever done to the free lists.
`FreeLists.Represents lists m queues` says which sequences heads and links stand for, one for each
class.  From it alone the links of the nodes can be read off in both directions, and the two
directions are inverse to each other (`FreeLists.Represents.inverse`).

`FreeLists.Edited` collects what an edit of one class leaves: heads and links for the new sequences,
links that are inverse again, and a memory that is the old one outside the link words of the nodes
that had to be written.  `FreeLists.Represents.edits` says that both edits come to that, the first
for any block with link words of its own, and the second for any node wherever it stands.
-/

namespace BlockHeap

namespace FreeLists

/-- On the nodes of the sequences the links forward and the links backward are inverse to each
other. -/
structure Inverse (m : Memory) (queues : SizeClass → List Nat) : Prop where
  next : ∀ c, ∀ x ∈ queues c, ∃ y?, Link.next m x = .ok y? ∧
    ∀ y ∈ y?, y ∈ queues c ∧ Link.prev m y = .ok (some x)
  prev : ∀ c, ∀ y ∈ queues c, ∃ x?, Link.prev m y = .ok x? ∧
    ∀ x ∈ x?, x ∈ queues c ∧ Link.next m x = .ok (some y)

/-- Heads and memory stand for the old sequences with that of one class replaced, and no byte
outside the link words of certain nodes was written. -/
structure Edited (m : Memory) (queues : SizeClass → List Nat) (cls : SizeClass)
    (nodes written : List Nat) (lists' : FreeLists) (m' : Memory) : Prop where
  represents : Represents lists' m' (Function.update queues cls nodes)
  inverse : Inverse m' (Function.update queues cls nodes)
  frame : Memory.ChangedOnly (fun pos => ∃ x ∈ written, Link.InSlot x pos) m m'

variable {lists : FreeLists} {m : Memory} {queues : SizeClass → List Nat}

/-- What is apart from all nodes and from one more is apart from all nodes with that one among
them. -/
lemma apart_of_update {cls : SizeClass} {block x : Nat} (hblock : Link.Apart x block)
    (hall : ∀ c, ∀ y ∈ queues c, Link.Apart x y) :
    ∀ c, ∀ y ∈ Function.update queues cls (block :: queues cls) c, Link.Apart x y := by
  intro c y hy
  rcases mem_update_cons.1 hy with ⟨-, rfl⟩ | hy
  · exact hblock
  · exact hall c y hy

namespace Represents

/-- What follows a node has the node in front of it, and the other way round. -/
lemma inverse (h : Represents lists m queues) (hm : m.size < Checked.bound) :
    Inverse m queues where
  next c x hx := by
    obtain ⟨before, after, hq⟩ := List.append_of_mem hx
    refine ⟨after.head?, (neighbours_eq h hq hm).2, ?_⟩
    intro y hy
    obtain ⟨rest, rfl⟩ := List.head?_eq_some_iff.1 hy
    have hq' : queues c = (before ++ [x]) ++ y :: rest := by
      rw [hq, List.append_assoc, List.singleton_append]
    have hprev := (neighbours_eq h hq' hm).1
    rw [List.getLast?_concat] at hprev
    exact ⟨hq' ▸ by simp, hprev⟩
  prev c y hy := by
    obtain ⟨before, after, hq⟩ := List.append_of_mem hy
    refine ⟨before.getLast?, (neighbours_eq h hq hm).1, ?_⟩
    intro x hx
    obtain ⟨rest, rfl⟩ := List.getLast?_eq_some_iff.1 hx
    have hq' : queues c = rest ++ x :: y :: after := by
      rw [hq, List.append_assoc, List.singleton_append]
    exact ⟨hq' ▸ by simp, (neighbours_eq h hq' hm).2⟩

lemma erase_eq {cls : SizeClass} {before after : List Nat} {block : Nat}
    (h : Represents lists m queues) (hq : queues cls = before ++ block :: after) :
    (queues cls).erase block = before ++ after := by
  have hnodup := h.nodup cls
  rw [hq] at hnodup
  have hbefore : block ∉ before := fun hin =>
    (List.nodup_append.1 hnodup).2.2 block hin block List.mem_cons_self rfl
  rw [hq, List.erase_append_right _ hbefore, List.erase_cons_head]

/-- **The free lists are sequences.**  Let heads and links, in a memory with machine numbers for
offsets, stand for a sequence of nodes for each class.  A block that is not at offset zero, with
link words in the memory and apart from those of all nodes, can be put in front of a class; only its
own link words and those of the old first node are written.  A node can be taken out of its class,
whether it is the only one, the first, the last or one between others; only the link words of its
neighbours are written.  Either way the other nodes keep their order, the other classes stay as they
are, and links forward and backward are inverse to each other. -/
theorem edits (h : Represents lists m queues) (hm : m.size < Checked.bound) (cls : SizeClass)
    (block : Nat) :
    (0 < block → block + 16 ≤ m.size → (∀ c, ∀ x ∈ queues c, Link.Apart block x) →
      ∃ lists' m', lists.insertHead m cls block = .ok (lists', m') ∧
        Edited m queues cls (block :: queues cls) (block :: (queues cls).head?.toList)
          lists' m') ∧
    (block ∈ queues cls → ∃ before after, queues cls = before ++ block :: after ∧
      ∃ lists' m', lists.remove m cls block = .ok (lists', m') ∧
        Edited m queues cls ((queues cls).erase block)
          (before.getLast?.toList ++ after.head?.toList) lists' m') := by
  constructor
  · intro hpos hslot hnew
    obtain ⟨lists', m', hinsert, hrep, hframe⟩ :=
      insertHead_represents h cls hpos hslot hm hnew
    refine ⟨lists', m', hinsert, hrep, hrep.inverse (hframe.size ▸ hm), hframe.mono ?_⟩
    rintro pos (hpos | ⟨x, hx, hpos⟩)
    · exact ⟨block, List.mem_cons_self, hpos⟩
    · exact ⟨x, List.mem_cons_of_mem _ (Option.mem_toList.2 hx), hpos⟩
  · intro hblock
    obtain ⟨before, after, hq⟩ := List.append_of_mem hblock
    obtain ⟨lists', m', hremove, hrep, hframe⟩ := remove_represents h hq hm
    rw [← h.erase_eq hq] at hrep
    refine ⟨before, after, hq, lists', m', hremove, hrep, hrep.inverse (hframe.size ▸ hm),
      hframe.mono ?_⟩
    rintro pos (⟨x, hx, hpos⟩ | ⟨x, hx, hpos⟩)
    · exact ⟨x, List.mem_append_left _ (Option.mem_toList.2 hx), hpos⟩
    · exact ⟨x, List.mem_append_right _ (Option.mem_toList.2 hx), hpos⟩

/-- Three nodes are put in front of one another, and the one between the others is taken out. -/
theorem edits_between : ∃ (lists lists' : FreeLists) (m m' : Memory) (cls : SizeClass),
    Represents lists m (Function.update (fun _ => []) cls [160, 96, 32]) ∧
      lists.remove m cls 96 = .ok (lists', m') ∧
      Represents lists' m' (Function.update (fun _ => []) cls [160, 32]) := by
  obtain ⟨m, hm⟩ : ∃ m : Memory, m.size = 256 := ⟨Memory.empty.extend 256, Memory.size_extend ..⟩
  have hlt : 256 < Checked.bound := by decide
  have hapart : ∀ x y, y + 16 ≤ x → Link.Apart x y := fun _ _ => .inr
  let cls := SizeClass.ofSize 64
  obtain ⟨lists₁, m₁, -, h₁⟩ := (edits (represents_empty m) (hm ▸ hlt) cls 32).1
    (by omega) (by omega) nofun
  have hm₁ := h₁.frame.size.trans hm
  obtain ⟨lists₂, m₂, -, h₂⟩ := (edits h₁.represents (hm₁ ▸ hlt) cls 96).1
    (by omega) (by omega) (apart_of_update (hapart _ _ (by omega)) nofun)
  have hm₂ := h₂.frame.size.trans hm₁
  obtain ⟨lists₃, m₃, -, h₃⟩ := (edits h₂.represents (hm₂ ▸ hlt) cls 160).1
    (by omega) (by omega) (apart_of_update (hapart _ _ (by omega))
      (apart_of_update (hapart _ _ (by omega)) nofun))
  have hall := h₃.represents
  have hm₃ := h₃.frame.size.trans hm₂
  simp only [Function.update_self, Function.update_idem] at hall
  obtain ⟨before, after, -, lists₄, m₄, hremove, h₄⟩ := (edits hall (hm₃ ▸ hlt) cls 96).2 (by simp)
  have hrest := h₄.represents
  simp only [Function.update_self, Function.update_idem] at hrest
  exact ⟨lists₃, lists₄, m₃, m₄, cls, hall, hremove, hrest⟩

end Represents

end FreeLists

end BlockHeap
