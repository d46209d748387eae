import Concordance.Text.Age
import Concordance.Text.CaseFold
import Concordance.Text.Category
import Concordance.Text.Script

/-!
Sets of characters as expressions.  They are compared with nothing and never listed; `contains` is
all that is known of them.
-/

namespace Concordance.Text

inductive CharSet where
  | all
  | interval (first last : Nat)
  | listed (table : CodeTable)
  | category (category : Category)
  | script (code : String)
  /-- The characters of a version of the standard, by its letter, and of those before it. -/
  | age (letter : Char)
  /-- The characters that fold to the same character as `c`. -/
  | alikeTo (c : Char)
  /-- Whatever is alike to a member. -/
  | folded (set : CharSet)
  /-- The members and their other case, as far as ASCII letters go. -/
  | foldedAscii (set : CharSet)
  | compl (set : CharSet)
  | union (left right : CharSet)
  | inter (left right : CharSet)
  | diff (left right : CharSet)
  | symmDiff (left right : CharSet)
  /-- Membership is decided by `low` below U+0100 and by `high` from there. -/
  | split (low high : CharSet)
deriving Repr

namespace CharSet

def contains : CharSet → Char → Bool
  | all, _ => true
  | interval first last, c => first ≤ c.toNat && c.toNat ≤ last
  | listed table, c => table.contains c.toNat
  | category g, c => Category.ofChar c == g
  | script code, c => Script.ofChar c == code
  | age letter, c => Age.ofChar c ≤ letter
  | alikeTo d, c => fold c == fold d
  | folded set, c => (alike c).any set.contains
  | foldedAscii set, c => set.contains c || set.contains c.toLower || set.contains c.toUpper
  | compl set, c => !set.contains c
  | union left right, c => left.contains c || right.contains c
  | inter left right, c => left.contains c && right.contains c
  | diff left right, c => left.contains c && !right.contains c
  | symmDiff left right, c => left.contains c != right.contains c
  | split low high, c => if c.toNat < 0x100 then low.contains c else high.contains c

def none : CharSet := compl all

def single (c : Char) : CharSet := interval c.toNat c.toNat

/-- A literal character: itself, or everything alike to it. -/
def literal (caseSensitive : Bool) (c : Char) : CharSet :=
  if caseSensitive then single c else alikeTo c

def unions (sets : List CharSet) : CharSet :=
  sets.foldr union none

def intervals (pairs : List (Nat × Nat)) : CharSet :=
  unions (pairs.map fun pair => interval pair.1 pair.2)

def categories (cs : List Category) : CharSet :=
  unions (cs.map category)

@[simp] theorem contains_none (c : Char) : none.contains c = false := rfl

@[simp] theorem contains_union (left right : CharSet) (c : Char) :
    (union left right).contains c = (left.contains c || right.contains c) := rfl

theorem contains_single {c d : Char} : (single c).contains d = true ↔ d = c := by
  simp only [single, contains, Bool.and_eq_true, decide_eq_true_eq]
  constructor
  · intro h
    exact Char.ext (UInt32.toNat_inj.1 (Nat.le_antisymm h.2 h.1))
  · rintro rfl
    exact ⟨Nat.le_refl _, Nat.le_refl _⟩

end CharSet

end Concordance.Text
