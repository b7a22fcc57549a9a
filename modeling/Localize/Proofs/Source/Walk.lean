/-
  Keys as walks through the tree of a source. A step goes from a map to the value at a segment, or from a list
  to the item that a numeral gives the index of (`Value.Step`), and `Value.Leads` is a whole walk. A source
  of maps follows a key just so, but for one thing: at a list it refuses a numeral of more digits than an
  integer may have (`Value.Refuses`), wherever the walk first comes to one (`Value.Overlong`). So a fault is
  always such a numeral (`resolve_ofMap_eq_error_iff`), and an answer is the sealed form of where the walk
  leads, or that there is no value (`answer_of_resolve`). What lies off the walk has no part in it
  (`follow_alike`).
-/
import Localize.Proofs.Source.Sealing

namespace Localize

open Text (decimalDigit? decimalDigits?)

/-! ## Numerals -/

/-- Decimal digits of any script with the number that they denote, most significant first. -/
inductive Numeral : List Char → Nat → Prop
  | digit {c : Char} {d : Nat} (hd : decimalDigit? c = some d) : Numeral [c] d
  | next {cs : List Char} {c : Char} {n d : Nat} (hn : Numeral cs n)
      (hd : decimalDigit? c = some d) : Numeral (cs ++ [c]) (10 * n + d)

theorem Text.ofDigits_append_digit (ds : List Nat) (d : Nat) :
    Text.ofDigits (ds ++ [d]) = 10 * Text.ofDigits ds + d := by
  simp [Text.ofDigits]

theorem mapM_append_digit {cs : List Char} {c : Char} {ds : List Nat} :
    (cs ++ [c]).mapM decimalDigit? = some ds ↔
      ∃ ds' d, cs.mapM decimalDigit? = some ds' ∧ decimalDigit? c = some d ∧ ds = ds' ++ [d] := by
  rw [List.mapM_append]
  constructor
  · intro h
    obtain ⟨ds', hds', h⟩ := Option.bind_eq_some_iff.mp h
    obtain ⟨last, hlast, h⟩ := Option.bind_eq_some_iff.mp h
    rw [List.mapM_cons] at hlast
    obtain ⟨d, hd, hlast⟩ := Option.bind_eq_some_iff.mp hlast
    cases hlast
    exact ⟨ds', d, hds', hd, (Option.some.inj h).symm⟩
  · rintro ⟨ds', d, hds', hd, rfl⟩
    simp [hds', hd]

theorem decimalDigits?_eq_some_iff {cs : List Char} {ds : List Nat} :
    decimalDigits? cs = some ds ↔ cs ≠ [] ∧ cs.mapM decimalDigit? = some ds := by
  cases cs with
  | nil => simp [decimalDigits?]
  | cons c cs => simp [decimalDigits?]

/-- What a numeral is read as: one digit for each character, which denote its number. -/
theorem Numeral.exists_digits {cs : List Char} {n : Nat} (h : Numeral cs n) :
    ∃ ds, decimalDigits? cs = some ds ∧ ds.length = cs.length ∧ n = Text.ofDigits ds := by
  induction h with
  | @digit c d hd => exact ⟨[d], by simp [decimalDigits?, hd], rfl, by simp [Text.ofDigits]⟩
  | @next cs c n d hn hd ih =>
    obtain ⟨ds, hds, hlength, rfl⟩ := ih
    have hmap := (decimalDigits?_eq_some_iff.mp hds).2
    refine ⟨ds ++ [d], decimalDigits?_eq_some_iff.mpr ⟨by simp, ?_⟩, by simp [hlength], ?_⟩
    · exact mapM_append_digit.mpr ⟨ds, d, hmap, hd, rfl⟩
    · rw [Text.ofDigits_append_digit]

theorem numeral_of_digits {cs : List Char} {ds : List Nat} (h : decimalDigits? cs = some ds) :
    Numeral cs (Text.ofDigits ds) := by
  obtain ⟨hne, hmap⟩ := decimalDigits?_eq_some_iff.mp h
  clear h
  induction cs using List.reverseRecOn generalizing ds with
  | nil => exact absurd rfl hne
  | append_singleton cs c ih =>
    obtain ⟨ds', d, hds', hd, rfl⟩ := mapM_append_digit.mp hmap
    rw [Text.ofDigits_append_digit]
    by_cases hcs : cs = []
    · subst hcs
      cases hds'
      simpa [Text.ofDigits] using Numeral.digit hd
    · exact .next (ih hcs hds') hd

theorem Numeral.unique {cs : List Char} {n m : Nat} (hn : Numeral cs n) (hm : Numeral cs m) : n = m := by
  obtain ⟨ds, hds, -, rfl⟩ := hn.exists_digits
  obtain ⟨ds', hds', -, rfl⟩ := hm.exists_digits
  cases hds.symm.trans hds'
  rfl

/-! ## Steps -/

namespace Value

/-- The entries of a map, sealed or not. -/
def entries? : Value → Option (List (String × Value))
  | map entries => some entries
  | view entries => some entries
  | _ => none

/-- The items of a list, sealed or not. -/
def items? : Value → Option (List Value)
  | list items => some items
  | tuple items => some items
  | _ => none

/-- A step from a map to the value at a segment, or from a list to the item whose index the segment is a
numeral for. There is none from any other value. -/
inductive Step : Value → String → Value → Prop
  | key {v next : Value} {segment : String} {entries : List (String × Value)}
      (hv : v.entries? = some entries) (hnext : valueAt? segment entries = some next) :
      Step v segment next
  | item {v next : Value} {segment : String} {items : List Value} {n : Nat}
      (hv : v.items? = some items) (hn : Numeral segment.toList n) (hnext : items[n]? = some next) :
      Step v segment next

/-- A walk along segments. -/
inductive Leads : Value → List String → Value → Prop
  | here (v : Value) : Leads v [] v
  | step {v next w : Value} {segment : String} {rest : List String} (hstep : v.Step segment next)
      (hrest : Leads next rest w) : Leads v (segment :: rest) w

/-- A list refuses a numeral of more digits than an integer may have. -/
def Refuses (v : Value) (segment : String) : Prop :=
  v.items?.isSome ∧ (∃ n, Numeral segment.toList n) ∧ digitLimit < segment.length

/-- Segments along which a walk comes to a list that refuses the next one, first to one of so many digits. -/
inductive Overlong : Value → List String → Nat → Prop
  | here {v : Value} {segment : String} (rest : List String) (h : v.Refuses segment) :
      Overlong v (segment :: rest) segment.length
  | later {v next : Value} {segment : String} {rest : List String} {count : Nat}
      (h : ¬ v.Refuses segment) (hstep : v.Step segment next) (hrest : Overlong next rest count) :
      Overlong v (segment :: rest) count

theorem Overlong.lt {v : Value} {segments : List String} {count : Nat} (h : v.Overlong segments count) :
    digitLimit < count := by
  induction h with
  | here rest h => exact h.2.2
  | later _ _ _ ih => exact ih

/-- The numeral that is refused is one of the segments. -/
theorem Overlong.mem_lengths {v : Value} {segments : List String} {count : Nat}
    (h : v.Overlong segments count) : count ∈ segments.map String.length := by
  induction h with
  | here rest h => exact List.mem_cons_self
  | later _ _ _ ih => exact List.mem_cons_of_mem _ ih

end Value

open Value (Step Leads Refuses Overlong)

namespace Source

section Step

variable {v next : Value} {segment : String} {items : List Value} {f : LookupFault}

/-- The item of a list at a numeral, which may have so many digits only. -/
theorem item?_of_numeral {n : Nat} (hn : Numeral segment.toList n) (items : List Value) :
    item? items segment =
      if digitLimit < segment.length then .error (.tooManyDigits segment.length) else .ok items[n]? := by
  obtain ⟨ds, hds, hlength, rfl⟩ := hn.exists_digits
  rw [String.length_toList] at hlength
  unfold item?
  rw [hds]
  dsimp only
  rw [hlength]

theorem item?_of_other (h : ¬ ∃ n, Numeral segment.toList n) (items : List Value) :
    item? items segment = .ok none := by
  unfold item?
  rcases hds : decimalDigits? segment.toList with _ | ds
  · rfl
  · exact absurd ⟨_, numeral_of_digits hds⟩ h

/-- From a list a step goes to the item at the segment, from a map to the value at it, and from other
values nowhere. -/
theorem step_cases (v : Value) (segment : String) :
    (∃ items, v.items? = some items ∧ v.entries? = none ∧ step v segment = item? items segment) ∨
    (∃ entries, v.items? = none ∧ v.entries? = some entries ∧
      step v segment = .ok (valueAt? segment entries)) ∨
    (v.items? = none ∧ v.entries? = none ∧ step v segment = .ok none) := by
  cases v with
  | list items => exact .inl ⟨items, rfl, rfl, rfl⟩
  | tuple items => exact .inl ⟨items, rfl, rfl, rfl⟩
  | map entries => exact .inr (.inl ⟨entries, rfl, rfl, rfl⟩)
  | view entries => exact .inr (.inl ⟨entries, rfl, rfl, rfl⟩)
  | _ => exact .inr (.inr ⟨rfl, rfl, rfl⟩)

theorem step_of_refuses (h : v.Refuses segment) :
    step v segment = .error (.tooManyDigits segment.length) := by
  obtain ⟨hlist, ⟨n, hn⟩, hlong⟩ := h
  rcases step_cases v segment with ⟨items, -, -, hstep⟩ | ⟨_, hnone, -⟩ | ⟨hnone, -⟩
  · rw [hstep, item?_of_numeral hn, if_pos hlong]
  · rw [hnone] at hlist
    cases hlist
  · rw [hnone] at hlist
    cases hlist

/-- Where a segment is not refused, it is followed if there is a step. -/
theorem step_of_not_refuses (h : ¬ v.Refuses segment) :
    ∃ next?, step v segment = .ok next? ∧ ∀ next, next? = some next ↔ v.Step segment next := by
  rcases step_cases v segment with ⟨items, hitems, hentries, hstep⟩ | ⟨entries, hitems, hentries, hstep⟩ |
    ⟨hitems, hentries, hstep⟩
  · by_cases hnumeral : ∃ n, Numeral segment.toList n
    · obtain ⟨n, hn⟩ := hnumeral
      have hshort : ¬ digitLimit < segment.length := fun hlong =>
        h ⟨by rw [hitems]; rfl, ⟨n, hn⟩, hlong⟩
      rw [hstep, item?_of_numeral hn, if_neg hshort]
      refine ⟨_, rfl, fun next => ⟨.item hitems hn, ?_⟩⟩
      rintro (⟨hv, -⟩ | ⟨hv, hm, hnext⟩)
      · cases hentries.symm.trans hv
      · cases hitems.symm.trans hv
        rwa [hn.unique hm]
    · rw [hstep, item?_of_other hnumeral]
      refine ⟨none, rfl, fun next => ⟨nofun, ?_⟩⟩
      rintro (⟨hv, -⟩ | ⟨-, hm, -⟩)
      · cases hentries.symm.trans hv
      · exact absurd ⟨_, hm⟩ hnumeral
  · rw [hstep]
    refine ⟨_, rfl, fun next => ⟨.key hentries, ?_⟩⟩
    rintro (⟨hv, hnext⟩ | ⟨hv, -⟩)
    · cases hentries.symm.trans hv
      exact hnext
    · cases hitems.symm.trans hv
  · rw [hstep]
    refine ⟨none, rfl, fun next => ⟨nofun, ?_⟩⟩
    rintro (⟨hv, -⟩ | ⟨hv, -⟩)
    · cases hentries.symm.trans hv
    · cases hitems.symm.trans hv

end Step

/-! ## Walks -/

section Follow

variable {v w : Value} {segments : List String}

theorem follow_cons_of_refuses {segment : String} (h : v.Refuses segment) (rest : List String) :
    follow v (segment :: rest) = .error (.tooManyDigits segment.length) := by
  rw [follow, step_of_refuses h]
  rfl

theorem follow_cons_of_step {segment : String} {next : Value} (h : ¬ v.Refuses segment)
    (hstep : v.Step segment next) (rest : List String) :
    follow v (segment :: rest) = follow next rest := by
  obtain ⟨next?, hnext, hiff⟩ := step_of_not_refuses h
  rw [follow, hnext, (hiff next).mpr hstep]
  rfl

theorem follow_cons_of_blocked {segment : String} (h : ¬ v.Refuses segment)
    (hstep : ∀ next, ¬ v.Step segment next) (rest : List String) :
    follow v (segment :: rest) = .ok none := by
  obtain ⟨next?, hnext, hiff⟩ := step_of_not_refuses h
  have hnone : next? = none :=
    Option.eq_none_iff_forall_ne_some.mpr fun next hsome => hstep next ((hiff next).mp hsome)
  rw [follow, hnext, hnone]
  rfl

/-- Segments are refused just if the walk along them comes to a list with too long a numeral. -/
theorem follow_eq_error_iff {f : LookupFault} :
    follow v segments = .error f ↔ ∃ count, v.Overlong segments count ∧ f = .tooManyDigits count := by
  constructor
  · intro h
    induction segments generalizing v with
    | nil => cases h
    | cons segment rest ih =>
      by_cases hrefuses : v.Refuses segment
      · rw [follow_cons_of_refuses hrefuses] at h
        cases h
        exact ⟨_, .here rest hrefuses, rfl⟩
      · by_cases hstep : ∃ next, v.Step segment next
        · obtain ⟨next, hstep⟩ := hstep
          rw [follow_cons_of_step hrefuses hstep] at h
          obtain ⟨count, hrest, rfl⟩ := ih h
          exact ⟨count, .later hrefuses hstep hrest, rfl⟩
        · rw [follow_cons_of_blocked hrefuses (not_exists.mp hstep)] at h
          cases h
  · rintro ⟨count, h, rfl⟩
    induction h with
    | here rest h => exact follow_cons_of_refuses h rest
    | later h hstep _ ih =>
      rw [follow_cons_of_step h hstep]
      exact ih

/-- Where nothing is refused, segments are followed as far as the walk along them leads. -/
theorem follow_of_answer {v? : Option Value} (h : follow v segments = .ok v?) (w : Value) :
    v? = some w ↔ v.Leads segments w := by
  induction segments generalizing v with
  | nil =>
    cases h
    constructor
    · rintro ⟨⟩
      exact .here _
    · rintro ⟨⟩
      rfl
  | cons segment rest ih =>
    have hrefuses : ¬ v.Refuses segment := by
      intro hrefuses
      rw [follow_cons_of_refuses hrefuses] at h
      cases h
    obtain ⟨next?, hnext, hiff⟩ := step_of_not_refuses hrefuses
    rcases next? with _ | next
    · have hblocked : ∀ next, ¬ v.Step segment next := fun next hstep =>
        nomatch (hiff next).mpr hstep
      rw [follow_cons_of_blocked hrefuses hblocked] at h
      cases h
      refine ⟨nofun, ?_⟩
      rintro ⟨⟩
      rename_i next hstep hrest
      exact absurd hstep (hblocked next)
    · have hstep : v.Step segment next := (hiff next).mp rfl
      rw [follow_cons_of_step hrefuses hstep] at h
      rw [ih h]
      constructor
      · exact .step hstep
      · rintro ⟨⟩
        rename_i other hother hrest
        cases (hiff other).mpr hother
        exact hrest

end Follow

end Source

/-! ## What lies off the walk -/

namespace Value

theorem Step.unique {v next other : Value} {segment : String} (h : v.Step segment next)
    (h' : v.Step segment other) : next = other := by
  have hsingle : v.items? = none ∨ v.entries? = none := by cases v <;> simp [items?, entries?]
  rcases h with ⟨hv, hnext⟩ | ⟨hv, hn, hnext⟩
  · rcases h' with ⟨hv', hother⟩ | ⟨hv', -, -⟩
    · cases hv.symm.trans hv'
      exact Option.some.inj (hnext.symm.trans hother)
    · simp [hv, hv'] at hsingle
  · rcases h' with ⟨hv', -⟩ | ⟨hv', hm, hother⟩
    · simp [hv, hv'] at hsingle
    · cases hv.symm.trans hv'
      rw [hn.unique hm] at hnext
      exact Option.some.inj (hnext.symm.trans hother)

/-- A walk along more segments goes on from where the first ones lead. -/
theorem Leads.append_iff {v u w : Value} {front rest : List String} (h : v.Leads front u) :
    v.Leads (front ++ rest) w ↔ u.Leads rest w := by
  induction h with
  | here v => rfl
  | @step v next u segment front hstep _ ih =>
    rw [← ih]
    constructor
    · rintro (_ | ⟨hother, hrest⟩)
      rwa [hstep.unique hother]
    · exact .step hstep

/-- A text is not indexed: no walk leads through one. -/
theorem not_leads_text {v w : Value} {front rest : List String} {segment s : String}
    (h : v.Leads front (.text s)) : ¬ v.Leads (front ++ segment :: rest) w := by
  rw [h.append_iff]
  rintro (_ | ⟨⟨⟨⟩, -⟩ | ⟨⟨⟩, -, -⟩, -⟩)

/-- Values that are alike along segments. At each segment both are lists or neither is one, and there is a step
from both, behind which they are alike again, or from neither; at the end they are the same. -/
inductive Alike : List String → Value → Value → Prop
  | reached (v : Value) : Alike [] v v
  | step {v w v' w' : Value} {segment : String} {rest : List String}
      (lists : v.items?.isSome = w.items?.isSome) (hv : v.Step segment v') (hw : w.Step segment w')
      (hrest : Alike rest v' w') : Alike (segment :: rest) v w
  | blocked {v w : Value} {segment : String} (rest : List String)
      (lists : v.items?.isSome = w.items?.isSome) (hv : ∀ next, ¬ v.Step segment next)
      (hw : ∀ next, ¬ w.Step segment next) : Alike (segment :: rest) v w

theorem refuses_congr {v w : Value} {segment : String} (lists : v.items?.isSome = w.items?.isSome) :
    v.Refuses segment ↔ w.Refuses segment := by
  unfold Refuses
  rw [lists]

end Value

namespace Source

theorem follow_alike {v w : Value} {segments : List String} (h : Value.Alike segments v w) :
    follow v segments = follow w segments := by
  induction h with
  | reached v => rfl
  | @step v w v' w' segment rest lists hv hw _ ih =>
    by_cases hrefuses : v.Refuses segment
    · rw [follow_cons_of_refuses hrefuses,
        follow_cons_of_refuses ((Value.refuses_congr lists).mp hrefuses)]
    · rw [follow_cons_of_step hrefuses hv,
        follow_cons_of_step (mt (Value.refuses_congr lists).mpr hrefuses) hw, ih]
  | @blocked v w segment rest lists hv hw =>
    by_cases hrefuses : v.Refuses segment
    · rw [follow_cons_of_refuses hrefuses,
        follow_cons_of_refuses ((Value.refuses_congr lists).mp hrefuses)]
    · rw [follow_cons_of_blocked hrefuses hv,
        follow_cons_of_blocked (mt (Value.refuses_congr lists).mpr hrefuses) hw]

/-! ## Answers of maps -/

section Answers

variable {name : String} {entries : List (String × Value)} {key : String}

/-- A source of maps answers with the sealed form of what is found in the maps themselves. -/
theorem resolve_ofMap_eq (name : String) (entries : List (String × Value)) (key : String) :
    (ofMap name entries).resolve key =
      (follow (.map entries) (Key.segments key)).map (·.bind fun v => defined v.sealed) := by
  have hsealed := follow_sealed (.map entries) (Key.segments key)
  show (do return (← follow (Value.sealed (.map entries)) (Key.segments key)).bind defined) = _
  rw [hsealed]
  rcases follow (.map entries) (Key.segments key) with f | (_ | v) <;> rfl

theorem resolve_ofMap_eq_error_iff {f : LookupFault} :
    (ofMap name entries).resolve key = .error f ↔
      ∃ count, (Value.map entries).Overlong (Key.segments key) count ∧ f = .tooManyDigits count := by
  rw [← follow_eq_error_iff, resolve_ofMap_eq]
  rcases follow (.map entries) (Key.segments key) with g | v?
  · exact Iff.rfl
  · exact ⟨nofun, nofun⟩

/-- What a key that is answered is answered with: the sealed form of where the walk leads, if that is a value
and not null, and else nothing. -/
theorem answer_of_resolve {r? : Option Value} (h : (ofMap name entries).resolve key = .ok r?) :
    (∀ v, (Value.map entries).Leads (Key.segments key) v → r? = defined v.sealed) ∧
      ((∀ v, ¬ (Value.map entries).Leads (Key.segments key) v) → r? = none) := by
  rw [resolve_ofMap_eq] at h
  rcases hfollow : follow (.map entries) (Key.segments key) with f | v?
  · rw [hfollow] at h
    cases h
  · rw [hfollow] at h
    cases h
    have hwalk := follow_of_answer hfollow
    constructor
    · intro v hv
      rw [(hwalk v).mpr hv]
      rfl
    · intro hnone
      have hv? : v? = none :=
        Option.eq_none_iff_forall_ne_some.mpr fun v hv => hnone v ((hwalk v).mp hv)
      rw [hv?]
      rfl

/-- A source of maps answers all keys but those it refuses. -/
theorem exists_resolve_ofMap_iff :
    (∃ r?, (ofMap name entries).resolve key = .ok r?) ↔
      ∀ count, ¬ (Value.map entries).Overlong (Key.segments key) count := by
  constructor
  · rintro ⟨r?, h⟩ count hover
    cases h.symm.trans (resolve_ofMap_eq_error_iff.mpr ⟨count, hover, rfl⟩)
  · intro hnone
    rcases hanswer : (ofMap name entries).resolve key with f | r?
    · obtain ⟨count, hover, -⟩ := resolve_ofMap_eq_error_iff.mp hanswer
      exact absurd hover (hnone count)
    · exact ⟨r?, rfl⟩

/-- A key that a source of maps answers is answered with the sealed form of the node that the walk along its
segments leads to in the maps themselves, and with nothing where there is no such walk; in particular no
walk goes on from a text. The answer is the same for all maps that are alike along the segments. -/
theorem resolve_of_walk {r? : Option Value} (h : (ofMap name entries).resolve key = .ok r?) :
    (∀ v, (Value.map entries).Leads (Key.segments key) v → r? = defined v.sealed) ∧
    ((∀ v, ¬ (Value.map entries).Leads (Key.segments key) v) → r? = none) ∧
    (∀ front segment rest s, Key.segments key = front ++ segment :: rest →
      (Value.map entries).Leads front (.text s) → r? = none) ∧
    ∀ name' entries', Value.Alike (Key.segments key) (.map entries) (.map entries') →
      (ofMap name' entries').resolve key = .ok r? := by
  obtain ⟨hreached, hmissed⟩ := answer_of_resolve h
  refine ⟨hreached, hmissed, ?_, ?_⟩
  · intro front segment rest s hsegments htext
    refine hmissed fun v hv => ?_
    rw [hsegments] at hv
    exact Value.not_leads_text htext hv
  · intro name' entries' halike
    rw [resolve_ofMap_eq, ← follow_alike halike, ← resolve_ofMap_eq name, h]

end Answers

/-- Maps with a list of a map and of null. -/
def stepsTree : List (String × Value) :=
  [("steps", .list [.map [("title", .text "Start")], .null]), ("word", .text "abc")]

/-- Other maps with the same title. -/
def otherStepsTree : List (String × Value) :=
  [("word", .null), ("steps", .list [.map [("more", .int 1), ("title", .text "Start")]])]

/-- A key with a leading zero in its index leads to the same title in both. -/
theorem resolve_of_walk_steps :
    (ofMap "mapping" stepsTree).resolve "steps[00].title" = .ok (some (.text "Start")) ∧
    (Value.map stepsTree).Leads (Key.segments "steps[00].title") (.text "Start") ∧
    Value.Alike (Key.segments "steps[00].title") (.map stepsTree) (.map otherStepsTree) ∧
    (ofMap "other" otherStepsTree).resolve "steps[00].title" = .ok (some (.text "Start")) := by
  have hsegments : Key.segments "steps[00].title" = ["steps", "00", "title"] := by decide +kernel
  have hzero : Numeral "00".toList 0 := @numeral_of_digits _ [0, 0] (by decide)
  have hanswer : (ofMap "mapping" stepsTree).resolve "steps[00].title" = .ok (some (.text "Start")) := by
    rw [resolve_ofMap_eq, hsegments]
    rfl
  have hleads : (Value.map stepsTree).Leads (Key.segments "steps[00].title") (.text "Start") := by
    rw [hsegments]
    exact .step (.key rfl rfl) (.step (.item rfl hzero rfl) (.step (.key rfl rfl) (.here _)))
  have halike :
      Value.Alike (Key.segments "steps[00].title") (.map stepsTree) (.map otherStepsTree) := by
    rw [hsegments]
    exact .step rfl (.key rfl rfl) (.key rfl rfl) (.step rfl (.item rfl hzero rfl) (.item rfl hzero rfl)
      (.step rfl (.key rfl rfl) (.key rfl rfl) (.reached _)))
  exact ⟨hanswer, hleads, halike, (resolve_of_walk hanswer).2.2.2 "other" otherStepsTree halike⟩

end Source

end Localize
