import BlockHeap.Proofs.Totality

/-!
# What a clean check says of the blocks

The check reads an arena without trusting it, and this file says how far its silence can be trusted.
Whatever bytes stand in the arena of a heap, if the check reports no violation, then the blocks are
in order (`Heap.Orderly`).  They tile the space between prologue and epilogue, their tags agree at
both ends, they have sizes and offsets that blocks can have, no two neighbours are free, and the
walk over the blocks meets them all.

The walk of the check has an inversion lemma for each of its steps: `Block.inspect_clean` for one
block and `Block.survey_clean` for one step of the walk, with its two ways to go.
`Surveyed.of_survey` is the induction over the walk, `Heap.exists_orderly_of_clean` adds the
prologue, and `Session.Reachable.orderly_of_clean` is the result for heaps that were tampered with.
-/

namespace BlockHeap

/-- Header and footer of the block are one word, which says its size and its state. -/
def BlockInfo.Labelled (m : Memory) (b : BlockInfo) : Prop :=
  ∃ tag, Block.header m b.offset = .ok tag ∧ Block.precedingTag m (b.offset + b.size) = .ok tag ∧
    tag.size = b.size ∧ tag.allocated = b.allocated

/-- From `start` on, the memory is blocks in order and the epilogue. -/
structure Surveyed (m : Memory) (start : Nat) (blocks : List BlockInfo) : Prop where
  tiles : Tiles start blocks m.size
  shape : ∀ b ∈ blocks, b.offset % 8 = 0 ∧ b.size % 8 = 0 ∧ 32 ≤ b.size
  labelled : ∀ b ∈ blocks, b.Labelled m
  coalesced : Coalesced blocks
  epilogue : ∃ tag, Block.header m m.size = .ok tag ∧ tag.size = 0 ∧ tag.allocated = true

/-- The blocks of the heap are in order, and the walk over them meets them all. -/
structure Heap.Orderly (h : Heap) (blocks : List BlockInfo) : Prop
    extends Surveyed h.memory (h.prologue + 16) blocks where
  prologue : ∃ tag, Block.header h.memory h.prologue = .ok tag ∧
    Block.precedingTag h.memory (h.prologue + 16) = .ok tag ∧ tag.size = 16 ∧ tag.allocated = true
  walk : h.blocks = .ok blocks

/-! ## Steps of the walk -/

namespace Block

variable {m : Memory} {prologue fuel pos block : Nat} {lastFree : Option Nat} {header tag : Tag}
variable {passable : Bool} {found : Findings}

lemma tagAt?_eq_some_iff : tagAt? m pos = some tag ↔ pos + 8 ≤ m.size ∧ tag = ⟨m.wordAt pos⟩ := by
  by_cases hpos : pos + 8 ≤ m.size
  · simp [tagAt?_eq hpos, hpos, eq_comm]
  · simp [tagAt?, Memory.word?, Memory.wordSize, hpos]

lemma header_eq_ok_of_tagAt? (hlo : 8 ≤ block) (htag : tagAt? m (block - 8) = some tag) :
    Block.header m block = .ok tag := by
  obtain ⟨hin, rfl⟩ := tagAt?_eq_some_iff.1 htag
  exact header_eq hlo (by omega)

lemma precedingTag_eq_ok_of_tagAt? (hlo : 16 ≤ block) (htag : tagAt? m (block - 16) = some tag)
    (hhi : block ≤ m.size) : precedingTag m block = .ok tag := by
  obtain ⟨-, rfl⟩ := tagAt?_eq_some_iff.1 htag
  exact precedingTag_eq hlo hhi

/-- **One block.**  If nothing is wrong with a block then it is aligned, lies in the memory, is
large enough unless it is the prologue, and has its header at both ends. -/
lemma inspect_clean (hinspect : Block.inspect m prologue block header = .ok ([], passable)) :
    passable = true ∧ block % 8 = 0 ∧ block - 8 + header.size ≤ m.size ∧
      (block = prologue ∨ 32 ≤ header.size) ∧ 16 ≤ block + header.size ∧
      tagAt? m (block + header.size - 16) = some header := by
  obtain ⟨start, hstart, hinspect⟩ := bind_eq_ok_iff.1 hinspect
  obtain ⟨-, rfl⟩ := Checked.sub_eq_ok_iff.1 hstart
  dsimp only at hinspect
  by_cases hin : m.size ≤ block - Memory.wordSize ∨
      m.size < block - Memory.wordSize + header.size
  · rw [if_pos hin] at hinspect
    simp at hinspect
  · rw [if_neg hin] at hinspect
    obtain ⟨footerPos, hfooter, hinspect⟩ := bind_eq_ok_iff.1 hinspect
    obtain ⟨stop, hstop, hfooter⟩ := bind_eq_ok_iff.1 hfooter
    obtain ⟨-, rfl⟩ := Checked.add_eq_ok_iff.1 hstop
    obtain ⟨hlo, rfl⟩ := Checked.sub_eq_ok_iff.1 hfooter
    cases htag : tagAt? m (block + header.size - overhead) with
    | none => simp [htag] at hinspect
    | some footer =>
      simp only [htag, Fault.pure_eq, Except.ok.injEq, Prod.mk.injEq, List.append_eq_nil_iff,
        ite_eq_left_iff, ite_eq_right_iff, List.cons_ne_nil, imp_false, not_not] at hinspect
      obtain ⟨⟨⟨haligned, hmin⟩, rfl⟩, hpassable⟩ := hinspect
      have hword : Memory.wordSize = 8 := rfl
      refine ⟨hpassable.symm, isAligned_iff.1 haligned, by omega, ?_, hlo, htag⟩
      by_contra hnot
      have : minSize = 32 := rfl
      exact hmin ⟨fun he => hnot (.inl he), by omega⟩

/-- **One step of the walk.**  A clean walk ends at the epilogue, or passes a block with which
nothing is wrong and goes on behind it. -/
lemma survey_clean (hsurvey : Block.survey m prologue (fuel + 1) block lastFree = .ok found)
    (hclean : found.violations = []) :
    ∃ header, 8 ≤ block ∧ tagAt? m (block - 8) = some header ∧
      ((block = m.size ∧ header.size = 0 ∧ header.allocated = true ∧ found.blocks = 0 ∧
          found.free = 0) ∨
        (Block.inspect m prologue block header = .ok ([], true) ∧ header.size ≠ 0 ∧
          (lastFree.isSome → header.allocated = true) ∧
          ∃ rest, Block.survey m prologue fuel (block + header.size)
              (if header.allocated then none else some block) = .ok rest ∧
            rest.violations = [] ∧
            found.blocks = (if block = prologue then 0 else 1) + rest.blocks ∧
            found.free = (!header.allocated).toNat + rest.free)) := by
  obtain ⟨start, hstart, hsurvey⟩ := bind_eq_ok_iff.1 hsurvey
  obtain ⟨hlo, rfl⟩ := Checked.sub_eq_ok_iff.1 hstart
  simp only [Memory.wordSize] at hlo hsurvey
  cases htag : tagAt? m (block - 8) with
  | none =>
    rw [htag] at hsurvey
    obtain rfl := Except.ok.inj hsurvey
    cases hclean
  | some header =>
    refine ⟨header, hlo, rfl, ?_⟩
    simp only [htag] at hsurvey
    split at hsurvey
    · next hzero =>
      obtain rfl := Except.ok.inj hsurvey
      simp only [ite_eq_left_iff, List.cons_ne_nil, imp_false, not_not] at hclean
      exact .inl ⟨hclean.2, hzero, hclean.1, rfl, rfl⟩
    · next hsize =>
      obtain ⟨⟨violations, passable⟩, hinspect, hsurvey⟩ := bind_eq_ok_iff.1 hsurvey
      simp only at hsurvey
      split at hsurvey
      · next hpassable =>
        obtain ⟨next, hnext, hsurvey⟩ := bind_eq_ok_iff.1 hsurvey
        obtain ⟨-, rfl⟩ := Checked.add_eq_ok_iff.1 hnext
        obtain ⟨rest, hrest, hsurvey⟩ := bind_eq_ok_iff.1 hsurvey
        obtain rfl := Except.ok.inj hsurvey
        simp only [Findings.append, List.append_eq_nil_iff] at hclean
        obtain ⟨⟨rfl, huncoalesced⟩, hrestClean⟩ := hclean
        subst hpassable
        refine .inr ⟨hinspect, hsize, ?_, rest, hrest, hrestClean, rfl, rfl⟩
        intro hlast
        obtain ⟨prev, rfl⟩ := Option.isSome_iff_exists.1 hlast
        simpa using huncoalesced
      · next hpassable =>
        -- a block that cannot be passed is itself a violation
        obtain rfl := Except.ok.inj hsurvey
        obtain rfl : violations = [] := hclean
        exact absurd (inspect_clean hinspect).1 hpassable

end Block

/-! ## The walk -/

section

variable {m : Memory} {prologue fuel start : Nat} {blocks : List BlockInfo} {b : BlockInfo}
variable {found : Findings}

/-- A block with which nothing is wrong may stand in front of others. -/
lemma Surveyed.cons {header : Tag} (hsurveyed : Surveyed m (start + header.size) blocks)
    (hlo : 8 ≤ start) (htag : Block.tagAt? m (start - 8) = some header)
    (hinspect : Block.inspect m prologue start header = .ok ([], true)) (hpast : prologue ≠ start)
    (hco : header.allocated = false → ∀ x ∈ blocks.head?, x.allocated = true) :
    Surveyed m start (⟨start, header.size, header.allocated⟩ :: blocks) := by
  obtain ⟨-, haligned, -, hmin, hfooter, hfooterTag⟩ := Block.inspect_clean hinspect
  have hsize := hmin.resolve_left hpast.symm
  have hle := hsurveyed.tiles.le
  refine ⟨⟨rfl, hsurveyed.tiles⟩, ?_, ?_, hsurveyed.coalesced.cons ?_, hsurveyed.epilogue⟩
  · intro x hx
    rcases List.mem_cons.1 hx with rfl | hx
    · exact ⟨haligned, isAligned_iff.1 header.isAligned_size, hsize⟩
    · exact hsurveyed.shape x hx
  · intro x hx
    rcases List.mem_cons.1 hx with rfl | hx
    · exact ⟨header, Block.header_eq_ok_of_tagAt? hlo htag,
        Block.precedingTag_eq_ok_of_tagAt? hfooter hfooterTag hle, rfl, rfl⟩
    · exact hsurveyed.labelled x hx
  · intro x hx
    cases hall : header.allocated with
    | true => exact .inl rfl
    | false => exact .inr (hco hall x hx)

/-- **The walk.**  A clean walk from behind the prologue has met blocks in order, and has counted
them. -/
lemma Surveyed.of_survey {lastFree : Option Nat} (hpast : prologue < start)
    (hsurvey : Block.survey m prologue fuel start lastFree = .ok found)
    (hclean : found.violations = []) :
    ∃ blocks, Surveyed m start blocks ∧ found.blocks = blocks.length ∧
      found.free = freeCount blocks ∧
      (lastFree.isSome → ∀ x ∈ blocks.head?, x.allocated = true) := by
  induction fuel generalizing start lastFree found with
  | zero => cases hsurvey
  | succ fuel ih =>
    obtain ⟨header, hlo, htag, hend | hpass⟩ := Block.survey_clean hsurvey hclean
    · obtain ⟨rfl, hzero, hall, hblocks, hfree⟩ := hend
      exact ⟨[], ⟨rfl, nofun, nofun, List.isChain_nil, header,
        Block.header_eq_ok_of_tagAt? hlo htag, hzero, hall⟩, hblocks, hfree, nofun⟩
    · obtain ⟨hinspect, hsize, hlast, rest, hrest, hrestClean, hblocks, hfree⟩ := hpass
      obtain ⟨blocks, hsurveyed, hcount, hcountFree, hco⟩ := ih (by omega) hrest hrestClean
      refine ⟨_, hsurveyed.cons hlo htag hinspect (by omega) ?_, ?_, ?_, ?_⟩
      · intro hall
        exact hco (by simp [hall])
      · rw [hblocks, if_neg (by omega), hcount, List.length_cons, Nat.add_comm]
      · rw [hfree, hcountFree, freeCount_cons]
      · rintro hsome x ⟨⟩
        exact hlast hsome

lemma Surveyed.blocksFrom_eq (hsurveyed : Surveyed m start blocks) (hsmall : m.size < Checked.bound)
    (hfuel : blocks.length < fuel) : Heap.blocksFrom m fuel start = .ok blocks := by
  refine hsurveyed.tiles.blocksFrom_eq ?_ ?_ ?_ hsmall hfuel
  · intro b hb
    obtain ⟨tag, hheader, -, hlabel⟩ := hsurveyed.labelled b hb
    exact ⟨tag, hheader, hlabel⟩
  · intro b hb
    have := (hsurveyed.shape b hb).2.2
    omega
  · obtain ⟨tag, hheader, hzero, -⟩ := hsurveyed.epilogue
    exact ⟨tag, hheader, hzero⟩

end

/-! ## The whole check -/

lemma Block.inspectPrologue_clean {m : Memory} {prologue : Nat}
    (hinspect : Block.inspectPrologue m prologue = .ok []) :
    ∃ tag, tagAt? m (prologue - 8) = some tag ∧ tag.size = 16 ∧ tag.allocated = true := by
  obtain ⟨start, hstart, hinspect⟩ := bind_eq_ok_iff.1 hinspect
  obtain ⟨-, rfl⟩ := Checked.sub_eq_ok_iff.1 hstart
  cases htag : tagAt? m (prologue - Memory.wordSize) with
  | none => simp [htag] at hinspect
  | some tag =>
    refine ⟨tag, htag, ?_⟩
    simp only [htag, Fault.pure_eq, Except.ok.injEq, ite_eq_left_iff, List.cons_ne_nil,
      imp_false, not_not] at hinspect
    exact hinspect

namespace Heap

variable {h : Heap} {verbose : Bool} {inspection : Inspection} {found : Findings}

/-- A check that reports nothing had nothing to report in any of its parts, and the walks over the
blocks and over the lists have counted the same. -/
lemma inspect_clean (hinspect : h.inspect verbose = .ok inspection)
    (hclean : inspection.report.violations = []) :
    ∃ arena lists, Block.inspectPrologue h.memory h.prologue = .ok [] ∧
      h.surveyBlocks = .ok arena ∧ h.surveyLists = .ok lists ∧ arena.violations = [] ∧
      lists.violations = [] ∧ arena.free = lists.free ∧
      inspection.report = ⟨[], arena.blocks, arena.free, lists.free⟩ := by
  obtain ⟨prologue, hprologue, hinspect⟩ := bind_eq_ok_iff.1 hinspect
  obtain ⟨arena, harena, hinspect⟩ := bind_eq_ok_iff.1 hinspect
  obtain ⟨lists, hlists, hinspect⟩ := bind_eq_ok_iff.1 hinspect
  obtain ⟨_, hblocks, hinspect⟩ := bind_eq_ok_iff.1 hinspect
  obtain ⟨_, harenaFree, hinspect⟩ := bind_eq_ok_iff.1 hinspect
  obtain ⟨_, hlistFree, hinspect⟩ := bind_eq_ok_iff.1 hinspect
  obtain ⟨-, rfl⟩ := Checked.count_eq_ok_iff.1 hblocks
  obtain ⟨-, rfl⟩ := Checked.count_eq_ok_iff.1 harenaFree
  obtain ⟨-, rfl⟩ := Checked.count_eq_ok_iff.1 hlistFree
  -- with a listing or without one, the report is the same
  have hreport : inspection.report =
      ⟨prologue ++ arena.violations ++ lists.violations ++
        (if arena.free = lists.free then [] else [.freeCountMismatch arena.free lists.free]),
        arena.blocks, arena.free, lists.free⟩ := by
    cases verbose with
    | true =>
      obtain ⟨listing, -, hinspect⟩ := bind_eq_ok_iff.1 hinspect
      exact congrArg Inspection.report (Except.ok.inj hinspect).symm
    | false => exact congrArg Inspection.report (Except.ok.inj hinspect).symm
  simp only [hreport, List.append_eq_nil_iff, ite_eq_left_iff, List.cons_ne_nil, imp_false,
    not_not] at hclean
  obtain ⟨⟨⟨rfl, harenaClean⟩, hlistsClean⟩, hfree⟩ := hclean
  refine ⟨arena, lists, hprologue, harena, hlists, harenaClean, hlistsClean, hfree, ?_⟩
  simp [hreport, harenaClean, hlistsClean, hfree]

/-- **The blocks of a clean check.**  If prologue and walk are clean then the blocks are in order,
and the walk has counted them. -/
lemma exists_orderly_of_clean (hprologue : Block.inspectPrologue h.memory h.prologue = .ok [])
    (hsurvey : h.surveyBlocks = .ok found) (hclean : found.violations = [])
    (hsmall : h.memory.size < Checked.bound) :
    ∃ blocks, h.Orderly blocks ∧ found.blocks = blocks.length ∧ found.free = freeCount blocks := by
  obtain ⟨tag, htag, hsize, hall⟩ := Block.inspectPrologue_clean hprologue
  obtain ⟨header, hlo, hheader, hend | hpass⟩ := Block.survey_clean hsurvey hclean
  · -- the prologue is not the epilogue, since it has a size
    obtain ⟨-, hzero, -, -, -⟩ := hend
    obtain rfl := Option.some.inj (htag.symm.trans hheader)
    omega
  · obtain ⟨hinspect, -, -, rest, hrest, hrestClean, hblocks, hfree⟩ := hpass
    obtain rfl := Option.some.inj (htag.symm.trans hheader)
    obtain ⟨-, -, -, -, hfooter, hfooterTag⟩ := Block.inspect_clean hinspect
    rw [hsize] at hrest hfooter hfooterTag
    obtain ⟨blocks, hsurveyed, hcount, hcountFree, -⟩ :=
      Surveyed.of_survey (by omega) hrest hrestClean
    have hle := hsurveyed.tiles.le
    have hlen := hsurveyed.tiles.length_le fun b hb => (hsurveyed.shape b hb).2
    have hfirst : h.firstBlock = .ok (h.prologue + 16) :=
      Checked.add_eq (show h.prologue + 16 < _ by omega)
    refine ⟨blocks, ⟨hsurveyed, ⟨tag, Block.header_eq_ok_of_tagAt? hlo htag,
      Block.precedingTag_eq_ok_of_tagAt? hfooter hfooterTag hle, hsize, hall⟩, ?_⟩, ?_, ?_⟩
    · rw [Heap.blocks, hfirst, Fault.ok_bind]
      exact hsurveyed.blocksFrom_eq hsmall (by omega)
    · rw [hblocks, if_pos rfl, hcount, Nat.zero_add]
    · rw [hfree, hall, hcountFree]
      exact Nat.zero_add _

end Heap

/-! ## Tampering -/

/-- The memory after words were written to it one after the other. -/
def Memory.poked (m : Memory) (words : List (Nat × UInt64)) : Memory :=
  words.foldl (fun m (pos, word) => m.overwrite pos wordSize (byteOfWord word)) m

lemma Memory.size_poked (m : Memory) (words : List (Nat × UInt64)) :
    (m.poked words).size = m.size := by
  induction words generalizing m with
  | nil => rfl
  | cons word words ih =>
    rw [poked, List.foldl_cons]
    exact (ih _).trans (size_overwrite ..)

namespace Session

variable {arena : Arena} {s : Session} {verbose : Bool} {inspection : Inspection}

/-- The heap after words were written to its arena behind its back. -/
def tampered (s : Session) (words : List (Nat × UInt64)) : Heap :=
  s.heap.put (s.heap.memory.poked words) s.heap.lists

/-- What a computation shows of a heap that was tampered with, and of its check. -/
lemma exists_tampered {α : Type} (config : Config) (room : Nat) (calls : List Call)
    (words : List (Nat × UInt64)) (view : Heap → Option α) (inspection : Inspection) (a : α)
    (hview : ((Heap.withConfig config room).outcome.toOption.bind Except.toOption).bind
      (fun h => (attempt ⟨h, []⟩ calls).bind fun s =>
        ((s.tampered words).check false).outcome.toOption.bind fun inspection =>
          (view (s.tampered words)).map fun a => (inspection, a)) = some (inspection, a)) :
    ∃ h s, (Heap.withConfig config room).outcome = .ok (.ok h) ∧ attempt ⟨h, []⟩ calls = some s ∧
      Reachable (.owned config.maxHeap room) s ∧
      ((s.tampered words).check false).outcome = .ok inspection ∧
      view (s.tampered words) = some a := by
  obtain ⟨h, s, hmake, hattempt, hs, hview⟩ := exists_of_attempt config room calls _ hview
  obtain ⟨_, hcheck, hview⟩ := Option.bind_eq_some_iff.1 hview
  obtain ⟨_, ha, hpair⟩ := Option.map_eq_some_iff.1 hview
  obtain ⟨rfl, rfl⟩ := Prod.mk.inj hpair
  exact ⟨h, s, hmake, hattempt, hs, eq_ok_of_toOption hcheck, ha⟩

/-- **Clean checks have seen blocks in order.**  Take the heap of any session and let any bytes of
its arena be overwritten.  If the check of what is left reports no violation, then its blocks are in
order, and the report says how many they are and how many of them are free. -/
theorem Reachable.orderly_of_clean (hs : Reachable arena s) {m : Memory}
    (hm : m.size = s.heap.memory.size)
    (hcheck : ((s.heap.put m s.heap.lists).check verbose).outcome = .ok inspection)
    (hclean : inspection.report.violations = []) :
    ∃ blocks, (s.heap.put m s.heap.lists).Orderly blocks ∧
      inspection.report.blocks = blocks.length ∧
      inspection.report.arenaFree = blocks.countP (!·.allocated) := by
  obtain ⟨_, _, hh⟩ := hs.holds
  have hsmall := hh.sound.laid.size_lt
  rw [Heap.outcome_check] at hcheck
  obtain ⟨found, lists, hprologue, hsurvey, -, hfound, -, -, hreport⟩ :=
    Heap.inspect_clean hcheck hclean
  obtain ⟨blocks, horderly, hblocks, hfree⟩ :=
    Heap.exists_orderly_of_clean hprologue hsurvey hfound (show m.size < _ by omega)
  refine ⟨blocks, horderly, ?_, ?_⟩
  · rw [hreport]
    exact hblocks
  · rw [hreport]
    exact hfree

/-- Two live blocks that were made one by hand pass for a block of 64 bytes. -/
theorem Reachable.orderly_of_clean_joined :
    ∃ (h : Heap) (blocks : List BlockInfo), h.Orderly blocks ∧
      blocks = [⟨32, 64, true⟩, ⟨96, 32, false⟩] := by
  obtain ⟨-, s, -, -, hs, hcheck, hview⟩ := exists_tampered ⟨96, 1, 1024⟩ 1024
    [.tryAllocate 8, .tryAllocate 8] [(24, 65), (80, 65)] (fun h => h.blocks.toOption)
    ⟨⟨[], 2, 1, 1⟩, []⟩ [⟨32, 64, true⟩, ⟨96, 32, false⟩] (by decide +kernel)
  obtain ⟨blocks, horderly, -, -⟩ :=
    Reachable.orderly_of_clean hs (Memory.size_poked ..) hcheck rfl
  exact ⟨_, blocks, horderly,
    Except.ok.inj (horderly.walk.symm.trans (eq_ok_of_toOption hview))⟩

end Session

end BlockHeap
