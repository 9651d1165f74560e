import BlockHeap.Proofs.Invariant

/-!
# Writing tags and links

An operation writes the tags of some blocks, one after the other, and in between link words of free
blocks.  `Memory.Stamped links stamps m m'` keeps an account of this: `stamps` are the blocks whose
tags were written, in this order, and link words were written at `links` only.  So every other byte
is what the last of the tags that were written over it has left there, or the old one.

A tag that was written may be covered by a larger block later on, as when a block is marked free
and then joined with its neighbours.  It stays in the account, for it stays in the memory.
-/

namespace BlockHeap

/-- The tags of the blocks were written in this order, and otherwise nothing but bytes at
`links`. -/
inductive Memory.Stamped (links : Nat → Prop) : List BlockInfo → Memory → Memory → Prop where
  | nil {m m' : Memory} (hframe : ChangedOnly links m m') : Stamped links [] m m'
  | cons {b : BlockInfo} {stamps : List BlockInfo} {m m₁ m' : Memory} (hoff : 8 ≤ b.offset)
      (hvalid : b.Valid) (htagged : b.Tagged m₁)
      (hframe : ChangedOnly (fun pos => b.AtTags pos ∨ links pos) m m₁)
      (hrest : Stamped links stamps m₁ m') : Stamped links (b :: stamps) m m'

/-- An offset in the link words of a block that is free in the one layout or in the other. -/
def InLinks (blocks blocks' : List BlockInfo) (pos : Nat) : Prop :=
  InFreeSlot blocks pos ∨ InFreeSlot blocks' pos

lemma InLinks.mono {blocks blocks' other other' : List BlockInfo} {pos : Nat}
    (h : InLinks blocks blocks' pos) (hsub : blocks ⊆ other) (hsub' : blocks' ⊆ other') :
    InLinks other other' pos :=
  h.imp (·.mono hsub) (·.mono hsub')

namespace Memory.Stamped

variable {links links' : Nat → Prop} {b : BlockInfo} {stamps stamps' : List BlockInfo}
variable {m m₁ m' : Memory} {prologue : Nat} {blocks : List BlockInfo}

lemma after (h : Stamped links stamps m₁ m') (hframe : ChangedOnly links m m₁) :
    Stamped links stamps m m' := by
  cases h with
  | nil hrest => exact .nil (hframe.trans hrest)
  | cons hoff hvalid htagged hnext hrest =>
    exact .cons hoff hvalid htagged ((hframe.mono fun _ => .inr).trans hnext) hrest

lemma trans (h : Stamped links stamps m m₁) (h' : Stamped links stamps' m₁ m') :
    Stamped links (stamps ++ stamps') m m' := by
  induction h with
  | nil hframe => exact h'.after hframe
  | cons hoff hvalid htagged hframe _ ih => exact .cons hoff hvalid htagged hframe (ih h')

lemma mono (h : Stamped links stamps m m') (hsub : ∀ pos, links pos → links' pos) :
    Stamped links' stamps m m' := by
  induction h with
  | nil hframe => exact .nil (hframe.mono hsub)
  | cons hoff hvalid htagged hframe _ ih =>
    exact .cons hoff hvalid htagged (hframe.mono fun pos => Or.imp_right (hsub pos)) ih

/-- Where bytes may have changed. -/
lemma changedOnly (h : Stamped links stamps m m') :
    ChangedOnly (fun pos => (∃ b ∈ stamps, b.AtTags pos) ∨ links pos) m m' := by
  induction h with
  | nil hframe => exact hframe.mono fun _ => .inr
  | cons _ _ _ hframe _ ih =>
    refine (hframe.mono fun pos => ?_).trans (ih.mono fun pos => ?_)
    · exact Or.imp_left fun htags => ⟨_, List.mem_cons_self, htags⟩
    · exact Or.imp_left fun ⟨b, hb, htags⟩ => ⟨b, List.mem_cons_of_mem _ hb, htags⟩

lemma of_laid (hlaid : Laid m' prologue blocks) (hb : b ∈ blocks)
    (hframe : ChangedOnly (fun pos => b.AtTags pos ∨ links pos) m m') :
    Stamped links [b] m m' := by
  have hbounds := hlaid.bounds hb
  exact .cons (by omega) (hlaid.valid b hb) (hlaid.tagged b hb) hframe (.nil (.refl _ _))

end Memory.Stamped

end BlockHeap
