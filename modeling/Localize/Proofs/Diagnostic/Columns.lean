/-
  What a record and its columns tell. A record lists the distinct keys of the misses that were added, each
  with what was first seen for it (`lists_addAll`). Columns to which the same misses are added stay in step
  with the record: each miss takes all of them on or none (`InStep.add`), and columns in step with a record
  tell what it tells (`InStep.tells`). So whatever is added, nothing that is told of a record is ever out of
  step with the rest (`record_addAll`).
-/
import Localize.Diagnostic.Columns
import Localize.Proofs.Diagnostic.Entries

namespace Localize

/-- The first of some misses with a key is the one that is kept. -/
theorem find?_foldl_keep (ms : List Miss) (key : String) :
    (ms.foldl keep []).find? (·.key = key) = ms.find? (·.key = key) := by
  rcases hfind : (ms.foldl keep []).find? (·.key = key) with _ | m
  · have hkey : key ∉ ms.map Miss.key := by
      rw [← List.mem_eraseDups, ← keys_foldl_keep, List.mem_map]
      rintro ⟨m, hm, rfl⟩
      exact List.find?_eq_none.mp hfind m hm (decide_eq_true rfl)
    rw [hfind]
    exact (List.find?_eq_none.mpr fun m hm hmkey =>
      hkey (List.mem_map.mpr ⟨m, hm, of_decide_eq_true hmkey⟩)).symm
  · have hkey : m.key = key := by simpa using List.find?_some hfind
    rw [hfind, ← hkey]
    exact (find?_of_mem_foldl_keep (List.mem_of_find?_eq_some hfind)).symm

/-! ## What a record lists -/

namespace Record

theorem misses_add (r : Record) (m : Miss) : (r.add m).misses = keep r.misses m := by
  unfold add keep
  split <;> rfl

theorem add_of_contains {r : Record} {m : Miss} (h : r.contains m.key = true) : r.add m = r := by
  unfold add
  exact dif_pos (List.contains_iff_mem.mp h)

theorem misses_addAll (r : Record) (ms : List Miss) :
    (r.addAll ms).misses = ms.foldl keep r.misses := by
  induction ms generalizing r with
  | nil => rfl
  | cons m ms ih => exact (ih (r.add m)).trans (congrArg (List.foldl keep · ms) (r.misses_add m))

theorem module_addAll (r : Record) (ms : List Miss) : (r.addAll ms).module = r.module := by
  induction ms generalizing r with
  | nil => rfl
  | cons m ms ih =>
    refine (ih (r.add m)).trans ?_
    unfold add
    split <;> rfl

theorem severity_addAll (r : Record) (ms : List Miss) : (r.addAll ms).severity = r.severity := by
  induction ms generalizing r with
  | nil => rfl
  | cons m ms ih =>
    refine (ih (r.add m)).trans ?_
    unfold add
    split <;> rfl

/-- A record of misses that were given: its lists are of one length and have the distinct keys in the order
in which they were first given, each with the default text and the location of the first miss with the key
and with one diagnostic of its own. -/
structure Lists (r : Record) (given : List Miss) : Prop where
  keys : r.keys = (given.map Miss.key).eraseDups
  texts : r.texts.length = r.keys.length
  locations : r.locations.length = r.keys.length
  diagnostics : r.diagnostics.length = r.keys.length
  first : ∀ (i : Nat) (key : String), r.keys[i]? = some key →
    ∃ m, given.find? (·.key = key) = some m ∧ r.texts[i]? = some m.text ∧
      r.locations[i]? = some m.location ∧
      ∃ d, r.diagnostics[i]? = some d ∧ d.key = some key ∧ d.location = m.location ∧
        d.module = some r.module ∧ d.severity = r.severity ∧ d.message = m.message
  contains : ∀ key, r.contains key = true ↔ key ∈ r.keys
  defaultText : ∀ key, r.defaultText? key = (given.find? (·.key = key)).map Miss.text
  message : r.message = "\n".intercalate
    ((r.keys.zip r.texts).map fun (key, text) => Miss.message { key, text })

/-- A record that keeps some misses lists them. -/
theorem lists_of_misses {r : Record} {given : List Miss} (h : r.misses = given.foldl keep []) :
    r.Lists given where
  keys := by rw [← keys_foldl_keep, ← h]; rfl
  texts := by simp [Record.texts, Record.keys]
  locations := by simp [Record.locations, Record.keys]
  diagnostics := by simp [Record.diagnostics, Record.keys]
  first := by
    intro i key hkey
    unfold Record.keys at hkey
    rw [List.getElem?_map, Option.map_eq_some_iff] at hkey
    obtain ⟨m, hm, rfl⟩ := hkey
    have hfirst : given.find? (·.key = m.key) = some m :=
      find?_of_mem_foldl_keep (h ▸ List.mem_of_getElem? hm)
    refine ⟨m, hfirst, ?_, ?_, r.diagnostic m, ?_, rfl, rfl, rfl, rfl, rfl⟩
    · rw [Record.texts, List.getElem?_map, hm]
      rfl
    · rw [Record.locations, List.getElem?_map, hm]
      rfl
    · rw [Record.diagnostics, List.getElem?_map, hm]
      rfl
  contains := fun key => List.contains_iff_mem
  defaultText := by
    intro key
    rw [Record.defaultText?, h, find?_foldl_keep]
  message := by
    rw [Record.message, Record.keys, Record.texts, List.zip_map', List.map_map]
    rfl

theorem lists_addAll (module : String) (severity : Severity) (first : Miss) (ms : List Miss) :
    ((Record.of module severity first).addAll ms).Lists (first :: ms) :=
  lists_of_misses (misses_addAll _ ms)

end Record

/-! ## Columns in step -/

namespace Columns

/-- Columns that hold what a record holds. -/
structure InStep (c : Columns) (r : Record) : Prop where
  module : c.module = r.module
  severity : c.severity = r.severity
  keys : c.keys = r.keys
  texts : c.texts = r.texts
  locations : c.locations = r.locations
  index : ∀ key, key ∈ c.index ↔ key ∈ r.keys
  wording : c.wording = r.message

/-- Columns that tell what a record tells. A key that is not recorded has no default text. -/
structure Tells (c : Columns) (r : Record) : Prop where
  keys : c.keys = r.keys
  texts : c.texts = r.texts
  locations : c.locations = r.locations
  contains : ∀ key, c.contains key = r.contains key
  defaultText : ∀ key, c.defaultText key =
    match r.defaultText? key with
    | some text => .ok text
    | none => .error (.unknown key)
  message : c.message = .ok r.message
  wording : c.wording = r.message
  diagnostics : c.diagnostics = .ok r.diagnostics

section InStep

variable {c : Columns} {r : Record}

theorem message_of_columns (hkeys : c.keys = r.keys) (htexts : c.texts = r.texts) :
    c.message = .ok r.message := by
  unfold message
  rw [hkeys, htexts, paired, if_pos (by simp [Record.keys, Record.texts])]
  dsimp only [bind, Except.bind, pure, Except.pure]
  rw [Record.keys, Record.texts, List.zip_map', List.map_map]
  rfl

theorem InStep.contains (h : InStep c r) (key : String) : c.contains key = r.contains key := by
  unfold Columns.contains Record.contains
  rw [Bool.eq_iff_iff, List.contains_iff_mem, List.contains_iff_mem]
  exact h.index key

/-- The place of a key among the keys is that of its default text among the texts. -/
theorem texts_idxOf (r : Record) (key : String) :
    ((r.keys.idxOf? key).bind fun i => r.texts[i]?) = r.defaultText? key := by
  unfold Record.keys Record.texts Record.defaultText?
  induction r.misses with
  | nil => rfl
  | cons m ms ih =>
    rw [List.map_cons, List.idxOf?_cons, List.find?_cons]
    by_cases hkey : m.key = key
    · simp [hkey]
    · simp only [beq_iff_eq, hkey, if_false, decide_false, Option.bind_map, ← ih]
      rfl

theorem InStep.defaultText (h : InStep c r) (key : String) :
    c.defaultText key =
      match r.defaultText? key with
      | some text => .ok text
      | none => .error (.unknown key) := by
  have hknown : r.contains key = true ↔ (r.defaultText? key).isSome = true := by
    unfold Record.contains Record.keys Record.defaultText?
    rw [List.contains_iff_mem, Option.isSome_map, List.find?_isSome, List.mem_map]
    simp only [decide_eq_true_eq]
  unfold Columns.defaultText
  rw [h.contains, h.keys, h.texts, texts_idxOf]
  rcases htext : r.defaultText? key with _ | text
  · rw [htext] at hknown
    rw [if_neg (by simp [hknown])]
  · rw [htext] at hknown
    rw [if_pos (hknown.mpr rfl)]

theorem InStep.diagnostics (h : InStep c r) : c.diagnostics = .ok r.diagnostics := by
  unfold Columns.diagnostics
  rw [h.keys, h.texts, h.locations, h.severity, h.module, paired,
    if_pos (by simp [Record.keys, Record.texts])]
  dsimp only [bind, Except.bind, pure, Except.pure]
  rw [paired, if_pos (by simp [Record.keys, Record.texts, Record.locations])]
  dsimp only
  rw [Record.keys, Record.texts, Record.locations, List.zip_map', List.zip_map', List.map_map]
  rfl

theorem InStep.tells (h : InStep c r) : Tells c r where
  keys := h.keys
  texts := h.texts
  locations := h.locations
  contains := h.contains
  defaultText := h.defaultText
  message := message_of_columns h.keys h.texts
  wording := h.wording
  diagnostics := h.diagnostics

/-- A miss whose key is recorded changes nothing; another one goes to all columns. -/
theorem InStep.add (h : InStep c r) (m : Miss) :
    ∃ c', c.add m = .ok (c', !r.contains m.key) ∧ InStep c' (r.add m) ∧
      (r.contains m.key = true → c' = c) := by
  rcases hkey : r.contains m.key with _ | _
  · have hnew : m.key ∉ r.misses.map Miss.key := fun hmem =>
      Bool.false_ne_true (hkey.symm.trans (List.contains_iff_mem.mpr hmem))
    have hmisses : (r.add m).misses = r.misses ++ [m] := by
      rw [r.misses_add, keep, if_neg hnew]
    have hkeys : (r.add m).keys = r.keys ++ [m.key] := by
      rw [Record.keys, hmisses, List.map_append]
      rfl
    have htexts : (r.add m).texts = r.texts ++ [m.text] := by
      rw [Record.texts, hmisses, List.map_append]
      rfl
    have hlocations : (r.add m).locations = r.locations ++ [m.location] := by
      rw [Record.locations, hmisses, List.map_append]
      rfl
    have hmessage := message_of_columns (r := r.add m)
      (c := { c with index := c.index.insert m.key, keys := c.keys ++ [m.key],
                     texts := c.texts ++ [m.text], locations := c.locations ++ [m.location] })
      (by rw [hkeys, h.keys]) (by rw [htexts, h.texts])
    unfold Columns.add
    rw [h.contains, hkey, if_neg Bool.false_ne_true]
    dsimp only
    rw [hmessage]
    refine ⟨_, rfl, ?_, fun hold => absurd hold Bool.false_ne_true⟩
    refine ⟨h.module.trans (r.module_addAll [m]).symm, h.severity.trans (r.severity_addAll [m]).symm,
      ?_, ?_, ?_, fun key => ?_, rfl⟩
    · rw [hkeys, ← h.keys]
    · rw [htexts, ← h.texts]
    · rw [hlocations, ← h.locations]
    · rw [List.mem_insert_iff, h.index, hkeys, List.mem_append, List.mem_singleton, or_comm]
  · refine ⟨c, ?_, ?_, fun _ => rfl⟩
    · unfold Columns.add
      rw [h.contains, hkey, if_pos rfl]
      rfl
    · rw [Record.add_of_contains hkey]
      exact h

/-- Of misses that are added one after the other, those are told to be new whose keys are new to what is
recorded and to what was added before. -/
theorem InStep.addAll (h : InStep c r) (ms : List Miss) :
    ∃ c' answers, c.addAll ms = .ok (c', answers) ∧ InStep c' (r.addAll ms) ∧
      answers.length = ms.length ∧
      ∀ (i : Nat) (m : Miss), ms[i]? = some m →
        answers[i]? = some (decide (m.key ∉ r.keys ++ (ms.take i).map Miss.key)) := by
  induction ms generalizing c r with
  | nil => exact ⟨c, [], rfl, h, rfl, nofun⟩
  | cons first ms ih =>
    obtain ⟨c₁, hadd, hstep, -⟩ := h.add first
    obtain ⟨c₂, answers, haddAll, hsteps, hlength, hanswers⟩ := ih hstep
    refine ⟨c₂, (!r.contains first.key) :: answers, ?_, hsteps, congrArg Nat.succ hlength, ?_⟩
    · rw [Columns.addAll, hadd]
      dsimp only [bind, Except.bind]
      rw [haddAll]
      rfl
    · intro i m hm
      cases i with
      | zero =>
        cases hm
        simp [Record.contains]
      | succ i =>
        have hkeys : ∀ key, key ∈ (r.add first).keys ↔ key ∈ r.keys ++ [first.key] := by
          intro key
          rw [Record.keys, r.misses_add, keep]
          split
          · rename_i hknown
            rw [List.mem_append, List.mem_singleton]
            exact ⟨.inl, fun hor => hor.elim id fun heq => heq ▸ hknown⟩
          · rw [List.map_append]
            rfl
        rw [List.getElem?_cons_succ, hanswers i m hm]
        congr 1
        rw [decide_eq_decide, List.take_succ_cons, List.map_cons, List.append_cons, List.mem_append,
          List.mem_append, hkeys]

end InStep

theorem inStep_of (module : String) (severity : Severity) (m : Miss) :
    ∃ c, Columns.of module severity m = .ok c ∧ InStep c (.of module severity m) := by
  refine ⟨_, rfl, rfl, rfl, rfl, rfl, rfl, fun key => ?_, ?_⟩
  · exact Iff.rfl
  · rfl

end Columns

/-- Whatever misses are added to a record, it lists the distinct keys with what was first given for each, and
its columns tell what it tells, its wording as an error included. Of each miss they tell whether its key is
new to those before it; one whose key is not changes nothing. -/
theorem record_addAll (module : String) (severity : Severity) (first : Miss) (ms : List Miss) :
    let r := (Record.of module severity first).addAll ms
    ∃ start c answers, Columns.of module severity first = .ok start ∧
      start.addAll ms = .ok (c, answers) ∧
      (r.module = module ∧ r.severity = severity ∧ r.Lists (first :: ms)) ∧ c.Tells r ∧
      (∀ (i : Nat) (m : Miss), ms[i]? = some m →
        answers[i]? = some (decide (m.key ∉ (first :: ms.take i).map Miss.key))) ∧
      ∀ m, ∃ c', c.add m = .ok (c', decide (m.key ∉ (first :: ms).map Miss.key)) ∧
        c'.Tells (r.add m) ∧ (m.key ∈ (first :: ms).map Miss.key → c' = c ∧ r.add m = r) := by
  intro r
  obtain ⟨start, hstart, hstep⟩ := Columns.inStep_of module severity first
  obtain ⟨c, answers, haddAll, hsteps, -, hanswers⟩ := hstep.addAll ms
  have hlists : r.Lists (first :: ms) := Record.lists_addAll module severity first ms
  have hcontains : ∀ key, r.contains key = true ↔ key ∈ (first :: ms).map Miss.key := by
    intro key
    rw [hlists.contains, hlists.keys, List.mem_eraseDups]
  refine ⟨start, c, answers, hstart, haddAll, ⟨?_, ?_, hlists⟩, hsteps.tells, hanswers, fun m => ?_⟩
  · exact Record.module_addAll _ ms
  · exact Record.severity_addAll _ ms
  · obtain ⟨c', hadd, hnext, hsame⟩ := hsteps.add m
    refine ⟨c', ?_, hnext.tells, fun hkey => ?_⟩
    · have hanswer : (!r.contains m.key) = decide (m.key ∉ (first :: ms).map Miss.key) := by
        rw [decide_not]
        exact congrArg not (Bool.eq_iff_iff.mpr ((hcontains m.key).trans decide_eq_true_iff.symm))
      rw [← hanswer]
      exact hadd
    · rw [← hcontains] at hkey
      exact ⟨hsame hkey, Record.add_of_contains hkey⟩

end Localize
