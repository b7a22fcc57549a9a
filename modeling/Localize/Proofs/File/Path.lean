/-
  Names and paths. `Proper` names are those that a directory can hold. Proper names joined by slashes are
  a text whose path has these names (`ofText_joined`), and a path of such names leads on from where it starts
  by one name after the other (`resolve_append_proper`), so different names lead to different places.
-/
import Localize.File.Path
import Mathlib.Data.List.Basic

namespace Localize

namespace Text

variable {α : Type} {test : α → Bool}

theorem splitAt_of_none {xs : List α} (h : ∀ x ∈ xs, test x = false) : splitAt test xs = [xs] := by
  induction xs with
  | nil => rfl
  | cons x rest ih =>
    rw [splitAt, ih fun y hy => h y (List.mem_cons_of_mem _ hy)]
    dsimp only
    rw [h x List.mem_cons_self]
    rfl

theorem splitAt_append {xs : List α} (h : ∀ x ∈ xs, test x = false) {x : α} (hx : test x = true)
    (rest : List α) : splitAt test (xs ++ x :: rest) = xs :: splitAt test rest := by
  induction xs with
  | nil =>
    rw [List.nil_append, splitAt]
    rcases hrest : splitAt test rest with _ | ⟨part, parts⟩
    · exact absurd hrest (splitAt_ne_nil test rest)
    · dsimp only
      rw [if_pos hx]
  | cons y xs ih =>
    rw [List.cons_append, splitAt, ih fun z hz => h z (List.mem_cons_of_mem _ hz)]
    dsimp only
    rw [h y List.mem_cons_self]
    rfl

/-- No part has an item to split at. -/
theorem not_mem_of_splitAt {xs part : List α} (h : part ∈ splitAt test xs) :
    ∀ x ∈ part, test x = false := by
  induction xs generalizing part with
  | nil =>
    rw [splitAt, List.mem_singleton] at h
    rw [h]
    exact fun x hx => absurd hx List.not_mem_nil
  | cons y rest ih =>
    rw [splitAt] at h
    rcases hrest : splitAt test rest with _ | ⟨first, parts⟩
    · exact absurd hrest (splitAt_ne_nil test rest)
    · rw [hrest] at h ih
      dsimp only at h
      split at h
      · rcases List.mem_cons.mp h with rfl | h
        · exact fun x hx => absurd hx List.not_mem_nil
        · exact ih h
      · rename_i hy
        rcases List.mem_cons.mp h with rfl | h
        · intro x hx
          rcases List.mem_cons.mp hx with rfl | hx
          · exact Bool.eq_false_iff.mpr hy
          · exact ih List.mem_cons_self x hx
        · exact ih (List.mem_cons_of_mem _ h)

/-! ## Joined texts -/

section Joined

variable {separator : String} {c : Char}

theorem toList_intercalate_cons (hseparator : separator.toList = [c]) (part next : String)
    (rest : List String) :
    (separator.intercalate (part :: next :: rest)).toList =
      part.toList ++ c :: (separator.intercalate (next :: rest)).toList := by
  rw [String.intercalate_cons_cons, String.toList_append, String.toList_append, List.append_assoc,
    hseparator, List.singleton_append]

/-- Joined texts are split where they are joined if the separator is in none of them. -/
theorem splitAt_intercalate (hseparator : separator.toList = [c]) {parts : List String}
    (hne : parts ≠ []) (h : ∀ part ∈ parts, c ∉ part.toList) :
    (splitAt (· = c) (separator.intercalate parts).toList).map String.ofList = parts := by
  have hno : ∀ part : String, c ∉ part.toList → ∀ x ∈ part.toList, decide (x = c) = false :=
    fun part hpart x hx => decide_eq_false fun heq => hpart (heq ▸ hx)
  induction parts with
  | nil => exact absurd rfl hne
  | cons part rest ih =>
    have hpart := hno part (h part List.mem_cons_self)
    rcases rest with _ | ⟨next, rest⟩
    · rw [String.intercalate_singleton, splitAt_of_none hpart, List.map_singleton,
        String.ofList_toList]
    · rw [toList_intercalate_cons hseparator, splitAt_append hpart (decide_eq_true rfl),
        List.map_cons, String.ofList_toList,
        ih (List.cons_ne_nil _ _) fun n hn => h n (List.mem_cons_of_mem _ hn)]

end Joined

end Text

namespace Path

/-! ## Names -/

/-- A part of a path that is a name, with no slash in it. -/
def Named (name : String) : Prop := isName name = true ∧ '/' ∉ name.toList

/-- A name that a directory can hold. -/
def Proper (name : String) : Prop := Named name ∧ name ≠ ".."

instance : DecidablePred Named := fun _ => inferInstanceAs (Decidable (_ ∧ _))

instance : DecidablePred Proper := fun _ => inferInstanceAs (Decidable (_ ∧ _))

theorem Named.ne_nil {name : String} (h : Named name) : name.toList ≠ [] := by
  intro hnil
  have hname := h.1
  rw [String.toList_eq_nil_iff.mp hnil] at hname
  cases hname

theorem named_of_ofText {text name : String} (h : name ∈ (ofText text).names) : Named name := by
  obtain ⟨hmem, hname⟩ := List.mem_filter.mp h
  obtain ⟨part, hpart, rfl⟩ := List.mem_map.mp hmem
  refine ⟨hname, fun hslash => ?_⟩
  rw [String.toList_ofList] at hslash
  have hno := Text.not_mem_of_splitAt hpart _ hslash
  simp at hno

/-! ## Texts -/

theorem splitAt_joined {names : List String} (hne : names ≠ []) (h : ∀ name ∈ names, Named name) :
    (Text.splitAt (· = '/') (joined names).toList).map String.ofList = names :=
  Text.splitAt_intercalate rfl hne fun name hname => (h name hname).2

/-- Names that are joined are the names of the path that this text denotes. -/
theorem ofText_joined {names : List String} (hne : names ≠ []) (h : ∀ name ∈ names, Named name) :
    ofText (joined names) = { names } := by
  have hfirst : (joined names).toList.takeWhile (· = '/') = [] := by
    rcases names with _ | ⟨name, rest⟩
    · exact absurd rfl hne
    · obtain ⟨c, cs, hc⟩ := List.exists_cons_of_ne_nil (h name List.mem_cons_self).ne_nil
      have hslash : c ≠ '/' := by
        rintro rfl
        exact (h name List.mem_cons_self).2 (hc ▸ List.mem_cons_self)
      rcases rest with _ | ⟨next, rest⟩
      · have hsingle : joined [name] = name := String.intercalate_singleton
        rw [hsingle, hc]
        simp [hslash]
      · rw [joined, Text.toList_intercalate_cons rfl, hc]
        simp [hslash]
  unfold ofText
  rw [hfirst, splitAt_joined hne h, List.filter_eq_self.mpr fun name hname => (h name hname).1]
  rfl

/-! ## Places -/

theorem foldl_follow {names : List String} (h : ∀ name ∈ names, Proper name) (trail : Trail) :
    names.foldl follow trail = trail ++ names := by
  induction names generalizing trail with
  | nil => exact (List.append_nil trail).symm
  | cons name rest ih =>
    have hfollow : follow trail name = trail ++ [name] := if_neg (h name List.mem_cons_self).2
    rw [List.foldl_cons, hfollow, ih fun n hn => h n (List.mem_cons_of_mem _ hn), List.append_assoc]
    rfl

theorem resolve_append_proper {names : List String} (h : ∀ name ∈ names, Proper name) (p : Path)
    (home : Trail) : (p.append { names }).resolve home = p.resolve home ++ names := by
  show (p.names ++ names).foldl follow (p.start home) = _
  rw [List.foldl_append, foldl_follow h]
  rfl

end Path

end Localize
