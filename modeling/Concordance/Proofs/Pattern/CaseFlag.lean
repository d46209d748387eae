import Concordance.Pattern.Resolve

/-!
Patterns and case.  Whether a pattern stands for an expression does not depend on the flag for case,
so a pattern that has been validated compiles for every terminal.
-/

namespace Concordance.Pattern

open Concordance.Text

/-! Options in sequence. -/

private theorem isSome_bind_congr {α β : Type} {left right : Option α} {next other : α → Option β}
    (first : left.isSome = right.isSome) (second : ∀ a b, (next a).isSome = (other b).isSome) :
    (left.bind next).isSome = (right.bind other).isSome := by
  cases left with
  | none =>
      cases right with
      | none => rfl
      | some b => cases first
  | some a =>
      cases right with
      | none => cases first
      | some b => exact second a b

private theorem rel_bind {α β : Type} {related : α → α → Prop} {result : β → β → Prop}
    {left right : Option α} {next other : α → Option β} (first : Option.Rel related left right)
    (second : ∀ a b, related a b → Option.Rel result (next a) (other b)) :
    Option.Rel result (left.bind next) (right.bind other) := by
  cases first with
  | none => exact .none
  | some holds => exact second _ _ holds

private theorem isSome_eq_of_rel {α : Type} {related : α → α → Prop} {left right : Option α}
    (both : Option.Rel related left right) : left.isSome = right.isSome := by
  cases both with
  | none => rfl
  | some holds => rfl

/-! Classes. -/

namespace Flags

/-- Flags that differ at most in whether case matters. -/
def Alike (left right : Flags) : Prop :=
  { left with caseInsensitive := right.caseInsensitive } = right

variable {left right : Flags}

theorem Alike.unicode (alike : left.Alike right) : left.unicode = right.unicode := by
  rw [← alike]

theorem Alike.change (alike : left.Alike right) (change : FlagChange) :
    (left.change change).Alike (right.change change) := by
  obtain ⟨flag, value⟩ := change
  rw [← alike]
  cases flag <;> rfl

theorem Alike.changeAll (alike : left.Alike right) (changes : List FlagChange) :
    (left.changeAll changes).Alike (right.changeAll changes) := by
  induction changes generalizing left right with
  | nil => exact alike
  | cons change rest ih => exact ih (alike.change change)

theorem Alike.dot?_eq (alike : left.Alike right) : left.dot? = right.dot? := by
  rw [← alike]
  rfl

theorem isSome_negatedSet? (flags : Flags) (negated : Bool) (set : CharSet) :
    (flags.negatedSet? negated set).isSome = (!negated || flags.unicode) := by
  rw [negatedSet?]
  cases negated with
  | false => rfl
  | true => cases flags.unicode <;> rfl

theorem isSome_char? (flags : Flags) (c : WrittenChar) :
    (flags.char? c).isSome = !(c.isByte && !flags.unicode && 0x7F < c.char.toNat) := by
  rw [char?]
  split
  · next refused => rw [refused]; rfl
  · next accepted =>
    rw [Bool.not_eq_true] at accepted
    rw [accepted]
    split
    · rfl
    · split <;> rfl

theorem isSome_shorthand? (flags : Flags) (kind : Shorthand) (negated : Bool) :
    (flags.shorthand? kind negated).isSome = (flags.unicode || !negated) := by
  unfold shorthand?
  cases flags.unicode with
  | true => rfl
  | false =>
      cases negated with
      | true => rfl
      | false => cases kind <;> rfl

theorem classChar?_congr (unicode : left.unicode = right.unicode) (c : WrittenChar) :
    left.classChar? c = right.classChar? c := by
  rw [classChar?, classChar?, unicode]

end Flags

section

variable {left right : Flags}

mutual

theorem ClassAst.isSome_resolve?_congr (unicode : left.unicode = right.unicode) :
    ∀ body : ClassAst, (body.resolve? left).isSome = (body.resolve? right).isSome
  | .empty => rfl
  | .char c => by
      rw [resolve?, resolve?, Flags.classChar?_congr unicode]
  | .range first last => by
      rw [resolve?, resolve?, Flags.classChar?_congr unicode, Flags.classChar?_congr unicode]
  | .ascii intervals negated => by
      rw [resolve?, resolve?, Flags.isSome_negatedSet?, Flags.isSome_negatedSet?, unicode]
  | .shorthand kind negated => by
      rw [resolve?, resolve?, Flags.isSome_shorthand?, Flags.isSome_shorthand?, unicode]
  | .property query negated => by
      rw [resolve?, resolve?, unicode]
      split
      · apply isSome_bind_congr rfl
        intro first second
        rw [Flags.isSome_negatedSet?, Flags.isSome_negatedSet?, unicode]
      · rfl
  | .bracketed negated body => by
      rw [resolve?, resolve?]
      apply isSome_bind_congr (isSome_resolve?_congr unicode body)
      intro first second
      rw [Flags.isSome_negatedSet?, Flags.isSome_negatedSet?, unicode]
  | .union items => by
      rw [resolve?, resolve?]
      exact isSome_resolveAll?_congr unicode items
  | .operation op first second => by
      rw [resolve?, resolve?]
      apply isSome_bind_congr (isSome_resolve?_congr unicode first)
      intro _ _
      apply isSome_bind_congr (isSome_resolve?_congr unicode second)
      intro _ _
      cases op <;> rfl

theorem ClassAst.isSome_resolveAll?_congr (unicode : left.unicode = right.unicode) :
    ∀ items : List ClassAst,
      (ClassAst.resolveAll? left items).isSome = (ClassAst.resolveAll? right items).isSome
  | [] => rfl
  | item :: rest => by
      rw [resolveAll?, resolveAll?]
      apply isSome_bind_congr (isSome_resolve?_congr unicode item)
      intro _ _
      apply isSome_bind_congr (isSome_resolveAll?_congr unicode rest)
      intro _ _
      rfl

end

end

/-! Patterns. -/

private theorem rel_map_of_isSome {left right : Flags} {first second : Option CharSet}
    (alike : left.Alike right) (same : first.isSome = second.isSome) :
    Option.Rel (fun one other : Regex × Flags => one.2.Alike other.2)
      (first.map fun set => (.set set, left)) (second.map fun set => (.set set, right)) := by
  cases first with
  | none =>
      cases second with
      | none => exact .none
      | some set => cases same
  | some set =>
      cases second with
      | none => cases same
      | some other => exact .some alike

mutual

/-- Flags that differ in case resolve the same patterns, and differ in case afterwards. -/
theorem Ast.resolve?_alike : ∀ (ast : Ast) {left right : Flags}, left.Alike right →
    Option.Rel (fun one other => one.2.Alike other.2) (ast.resolve? left) (ast.resolve? right)
  | .empty, left, right, alike => .some alike
  | .flags changes, left, right, alike => .some (alike.changeAll changes)
  | .char c, left, right, alike => by
      rw [resolve?, resolve?]
      apply rel_map_of_isSome alike
      rw [Flags.isSome_char?, Flags.isSome_char?, alike.unicode]
  | .dot, left, right, alike => by
      rw [resolve?, resolve?]
      exact rel_map_of_isSome alike (by rw [alike.dot?_eq])
  | .assertion kind, left, right, alike => .some alike
  | .characters body, left, right, alike => by
      rw [resolve?, resolve?]
      exact rel_map_of_isSome alike (ClassAst.isSome_resolve?_congr alike.unicode body)
  | .repetition greedy least most body, left, right, alike => by
      rw [resolve?, resolve?]
      exact rel_bind (resolve?_alike body alike) fun _ _ after => .some after
  | .group changes body, left, right, alike => by
      rw [resolve?, resolve?]
      exact rel_bind (resolve?_alike body (alike.changeAll changes)) fun _ _ _ => .some alike
  | .concat items, left, right, alike => by
      rw [resolve?, resolve?]
      exact rel_bind (resolveAll?_alike items alike) fun _ _ after => .some after
  | .alternation branches, left, right, alike => by
      rw [resolve?, resolve?]
      exact rel_bind (resolveAll?_alike branches alike) fun _ _ after => .some after

theorem Ast.resolveAll?_alike : ∀ (items : List Ast) {left right : Flags}, left.Alike right →
    Option.Rel (fun one other => one.2.Alike other.2)
      (Ast.resolveAll? left items) (Ast.resolveAll? right items)
  | [], left, right, alike => .some alike
  | item :: rest, left, right, alike => by
      rw [resolveAll?, resolveAll?]
      refine rel_bind (resolve?_alike item alike) fun _ _ middle => ?_
      exact rel_bind (resolveAll?_alike rest middle) fun _ _ after => .some after

end

/-- Whether a pattern compiles does not depend on case. -/
theorem isSome_compile? (caseSensitive : Bool) (pattern : String) :
    (compile? caseSensitive pattern).isSome = (compile? true pattern).isSome := by
  rw [compile?, compile?]
  cases Ast.parse? pattern with
  | none => rfl
  | some ast =>
      have alike : Flags.Alike { caseInsensitive := !caseSensitive } { caseInsensitive := !true } :=
        rfl
      simp only [Option.bind_eq_bind, Option.bind_some]
      split
      · exact isSome_bind_congr (isSome_eq_of_rel (ast.resolve?_alike alike)) fun _ _ => rfl
      · rfl

end Concordance.Pattern
