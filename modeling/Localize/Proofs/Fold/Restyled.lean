/-
  Scans and renderings of a text in another style of line ends. Call sites are found at the same nodes
  and differ in their ranges only, which are those of the same characters (`stops_restyled`), so the
  sources are asked the same and what is put in place differs in its ranges only
  (`Yield.of_restyled`). Literals stand in one line, and so rendering gives the same text in the other
  style (`Substitution.render_restyled`).
-/
import Localize.Proofs.Fold.Literal
import Localize.Proofs.Fold.Sites
import Localize.Proofs.Fold.Yield
import Localize.Proofs.Position.Restyled

namespace Localize

open Syntax

variable (style : LineStyle) (text : List Char)

/-- The call site of the same call in another style. -/
def CallSite.restyled (s : CallSite) : CallSite := { s with range := s.range.restyled style text }

/-- The literal in the place of the same characters in another style. -/
def Substitution.restyled (d : Substitution) : Substitution :=
  { d with range := d.range.restyled style text }

/-- What a scan of the text in another style meets. -/
def Stop.restyled : Stop → Stop
  | .site s => .site (s.restyled style text)
  | .misplaced e => .misplaced e
  | .beyond spans => .beyond spans

/-- What a scan of the text in another style comes to. -/
def Yield.restyled (y : Yield) : Yield :=
  { y with substitutions := y.substitutions.map (Substitution.restyled style text) }

/-! ## Scans -/

/-- The sources do not see ranges. -/
theorem Yield.of_restyled (config : Config) (ss : List Stop) :
    Yield.of config (ss.map (Stop.restyled style text)) = (Yield.of config ss).restyled style text := by
  induction ss with
  | nil => rfl
  | cons s rest ih =>
    cases s with
    | misplaced e => rfl
    | beyond spans =>
      rw [List.map_cons, Stop.restyled, Yield.of, ih]
      rfl
    | site s =>
      have hmiss : (s.restyled style text).miss = s.miss := rfl
      rw [List.map_cons, Stop.restyled, Yield.of, Yield.of, ih, hmiss]
      rcases filling config s.miss with f | r
      · rfl
      · rfl

section Stops

variable {style} {index index' : LineIndex} {tree : Node}

theorem Syntax.Node.WellPlaced.whole {lines : List (List Char)}
    (h : tree.WellPlaced (lines.map lineBody)) : tree.WellPlaced lines :=
  ⟨fun path span hcall => (h.placed path span hcall).whole, h.apart⟩

/-- A node is the same call site in both styles. -/
theorem CallSite.of?_restyled (name : String) (h : LineIndex.Restyled style index index')
    (hplaced : tree.WellPlaced (index.lines.map lineBody)) :
    CallSite.of? name index' tree =
      (CallSite.of? name index tree).map (Option.map (CallSite.restyled style index.text)) := by
  cases tree with
  | call callee arguments keywords span =>
    have hspan := hplaced.placed [] span ⟨callee, arguments, keywords, rfl⟩
    obtain ⟨r, hrange, hrange'⟩ := LineIndex.rangeOfSpan_restyled h hspan
    have hlocation := LineIndex.locationOfSpan_restyled h hspan
    unfold CallSite.of?
    dsimp only
    rw [hrange, hrange', hlocation]
    split
    · rcases (Node.call callee arguments keywords span).keyAndText with _ | ⟨key, default⟩
      · rfl
      · rcases index.locationOfSpan span with e | location
        · rfl
        · rfl
    · rfl
  | _ => rfl

/-- A scan makes the same stops in both styles. -/
theorem stops_restyled (name : String) (h : LineIndex.Restyled style index index')
    (hplaced : tree.WellPlaced (index.lines.map lineBody)) (levels : Nat) :
    stops name index' levels tree =
      (stops name index levels tree).map (Stop.restyled style index.text) := by
  induction levels generalizing tree with
  | zero => rfl
  | succ levels ih =>
    have hinner : tree.children.flatMap (stops name index' levels) =
        (tree.children.flatMap (stops name index levels)).map (Stop.restyled style index.text) := by
      rw [List.map_flatMap]
      apply List.flatMap_congr
      intro child hchild
      obtain ⟨i, hi⟩ := List.getElem?_of_mem hchild
      exact ih (hplaced.child hi)
    unfold stops Stop.ofCall
    rw [CallSite.of?_restyled name h hplaced, hinner]
    rcases CallSite.of? name index tree with e | (_ | s)
    · rfl
    · rfl
    · rfl

end Stops

/-! ## Renderings -/

namespace Substitution

variable {ss : List Substitution}

theorem slice_restyled (start stop : Nat) :
    slice (style.restyle text) (style.shift text start) (style.shift text stop) =
      style.restyle (slice text start stop) := by
  unfold slice
  rw [style.drop_shift]
  by_cases h : start ≤ stop
  · obtain ⟨k, rfl⟩ := Nat.exists_eq_add_of_le h
    have hlength : style.shift text (start + k) - style.shift text start =
        style.shift (text.drop start) k := by
      rw [style.shift_add, Nat.add_sub_cancel_left, LineStyle.shift]
    rw [hlength, Nat.add_sub_cancel_left, style.take_shift]
  · have hle := style.shift_mono text (Nat.le_of_not_le h)
    rw [Nat.sub_eq_zero_of_le hle, Nat.sub_eq_zero_of_le (Nat.le_of_not_le h)]
    rfl

theorem splice_restyled (hfeed : ∀ d ∈ ss, '\n' ∉ d.encoded.toList) (cursor : Nat) :
    splice (style.restyle text) (style.shift text cursor) (ss.map (restyled style text)) =
      style.restyle (splice text cursor ss) := by
  induction ss generalizing cursor with
  | nil => exact style.drop_shift text cursor
  | cons d rest ih =>
    have hrest := ih (fun e he => hfeed e (List.mem_cons_of_mem _ he)) d.range.stop
    have hencoded := style.restyle_of_not_mem (hfeed d List.mem_cons_self)
    rw [splice, style.restyle_append, style.restyle_append, hencoded, ← hrest, ← slice_restyled]
    rfl

theorem overlaps_restyled {p d : Substitution} (hp : p.range.stop ≤ text.length)
    (hd : d.range.stop ≤ text.length) :
    (p.restyled style text).range.overlaps (d.restyled style text).range = p.range.overlaps d.range := by
  simp only [TextRange.overlaps, restyled, TextRange.restyled, style.shift_lt_iff text hp,
    style.shift_lt_iff text hd]

/-- Substitutions in a text pass the check, or fail it, in both styles. -/
theorem check_restyled (hinside : ∀ d ∈ ss, d.range.stop ≤ text.length)
    {previous : Option Substitution} (hprevious : ∀ p ∈ previous, p.range.stop ≤ text.length) :
    check (style.restyle text).length (previous.map (restyled style text))
      (ss.map (restyled style text)) = check text.length previous ss := by
  induction ss generalizing previous with
  | nil => rfl
  | cons d rest ih =>
    have hd := hinside d List.mem_cons_self
    have hd' : (d.restyled style text).range.stop ≤ (style.restyle text).length :=
      style.shift_le_length text d.range.stop
    have hinside' : ∀ e ∈ rest, e.range.stop ≤ text.length := fun e he =>
      hinside e (List.mem_cons_of_mem _ he)
    have hprevious' : ∀ p ∈ some d, p.range.stop ≤ text.length := fun p hp =>
      Option.mem_some.mp hp ▸ hd
    have hnext := ih hinside' hprevious'
    have hkind : (d.restyled style text).kind = d.kind := rfl
    rw [List.map_cons]
    unfold check
    rw [hkind, if_neg (Nat.not_lt.mpr hd), if_neg (Nat.not_lt.mpr hd')]
    rcases d.kind with _ | name
    · rcases previous with _ | p
      · exact hnext
      · have hoverlaps := overlaps_restyled style text (hprevious p rfl) hd
        simp only [Option.map_some, hoverlaps]
        split
        · rfl
        · exact hnext
    · rfl

/-- Rendering gives the same text in the other style. -/
theorem render_restyled (hinside : ∀ d ∈ ss, d.range.stop ≤ text.length)
    (hfeed : ∀ d ∈ ss, '\n' ∉ d.encoded.toList) :
    render (style.restyle text) (ss.map (restyled style text)) =
      (render text ss).map style.restyle := by
  have hsorted : sortByStart (ss.map (restyled style text)) =
      (sortByStart ss).map (restyled style text) := by
    apply sortBy_map
    intro d hd e _
    have hstart := Nat.le_trans d.range.start_le_stop (hinside d hd)
    have hlt := style.shift_lt_iff text (m := e.range.start) hstart
    simp only [restyled, TextRange.restyled, ← Nat.not_lt, hlt]
  have hmem : ∀ d ∈ sortByStart ss, d ∈ ss := fun d hd => (sortBy_perm _ ss).mem_iff.mp hd
  have hnone : ∀ p ∈ (none : Option Substitution), p.range.stop ≤ text.length := by simp
  have hcheck := check_restyled style text (fun d hd => hinside d (hmem d hd)) hnone
  rw [Option.map_none] at hcheck
  have hsplice := splice_restyled style text (fun d hd => hfeed d (hmem d hd)) 0
  unfold render
  dsimp only
  rw [hsorted, hcheck]
  rcases check text.length none (sortByStart ss) with f | u
  · rfl
  · exact congrArg Except.ok hsplice

end Substitution

end Localize
