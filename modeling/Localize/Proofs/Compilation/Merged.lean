/-
  Two sources and the one that they make up. What a build makes of a text depends on the values that keys are
  resolved to and on nothing else: configurations that resolve every key to the same value, or refuse it with
  the same fault, lead to the same module but for the outcomes of its substitutions and its records
  (`bodyOf_bare`). So a first source with a fallback can be replaced by the one source that asks the first and
  then the other, and no source by one that has no key at all (`alike_merged`).
-/
import Localize.Proofs.Compilation.Settled

namespace Localize

open Syntax

/-! ## What is left without outcomes and records -/

/-- A substitution without how its key was resolved. -/
def Substitution.bare (d : Substitution) : Substitution := { d with outcome := .primary }

/-- A module without outcomes and records. -/
def Module.bare (m : Module) : Module :=
  { m with dependencies := m.dependencies.map Substitution.bare, warnings := none, errors := none }

theorem Module.bare_withRecords (m : Module) (w : Window) : (m.withRecords w).bare = m.bare := rfl

theorem Substitution.bare_of (v : Value) (s : CallSite) (outcome : Outcome) :
    (Substitution.of v s outcome).bare = Substitution.of v s .primary := rfl

/-! ## Rendering takes no notice of outcomes -/

namespace Substitution

theorem check_bare (length : Nat) (previous : Option Substitution) (ss : List Substitution) :
    check length (previous.map bare) (ss.map bare) = check length previous ss := by
  induction ss generalizing previous with
  | nil => rfl
  | cons d rest ih =>
    have hnext : check length (some d.bare) (rest.map bare) = check length (some d) rest :=
      ih (some d)
    rw [List.map_cons]
    unfold check
    rcases previous with _ | p
    · rw [hnext]
      rfl
    · rw [hnext]
      rfl

theorem splice_bare (text : List Char) (cursor : Nat) (ss : List Substitution) :
    splice text cursor (ss.map bare) = splice text cursor ss := by
  induction ss generalizing cursor with
  | nil => rfl
  | cons d rest ih =>
    rw [List.map_cons, splice, splice]
    exact congrArg (slice text cursor d.range.start ++ d.encoded.toList ++ ·) (ih d.range.stop)

theorem render_bare (text : List Char) (ss : List Substitution) :
    render text (ss.map bare) = render text ss := by
  have hsorted : sortByStart (ss.map bare) = (sortByStart ss).map bare :=
    sortBy_map bare fun _ _ _ _ => rfl
  have hcheck : check text.length none ((sortByStart ss).map bare) =
      check text.length none (sortByStart ss) := check_bare text.length none _
  unfold render
  dsimp only
  rw [hsorted, hcheck, splice_bare]

end Substitution

/-! ## Configurations that give the same values -/

/-- Configurations that fold the calls of the same name, and resolve their keys to the same values. -/
structure Config.Agrees (a b : Config) : Prop where
  name : a.functionName = b.functionName
  value : ∀ m, (resolved a m).map Resolution.value = (resolved b m).map Resolution.value

/-- The value that a call is filled with depends on the value that its key is resolved to alone. -/
theorem map_filling (config : Config) (m : Miss) :
    (filling config m).map Resolution.value =
      match (resolved config m).map Resolution.value with
      | .error f => .error (.fold (.lookup f))
      | .ok value => if Json.isWritten value then .ok value else .error (.write .tooManyDigits) := by
  unfold filling
  rcases resolved config m with f | r
  · rfl
  · exact apply_ite (Except.map Resolution.value) _ _ _

/-- What a scan comes to, without outcomes and entries. -/
def Yield.bare (y : Yield) : Yield :=
  { y with substitutions := y.substitutions.map Substitution.bare, entries := [] }

section Agrees

variable {a b : Config} (h : a.Agrees b)

include h

/-- A call is filled with the same value with both, or with nothing because of the same fault. -/
theorem Config.Agrees.filling (m : Miss) :
    (Localize.filling a m).map Resolution.value = (Localize.filling b m).map Resolution.value := by
  rw [map_filling, map_filling, h.value m]

/-- Stops come to the same with both, as far as values go. -/
theorem Yield.bare_of (ss : List Stop) : (Yield.of a ss).bare = (Yield.of b ss).bare := by
  induction ss with
  | nil => rfl
  | cons stop rest ih =>
    cases stop with
    | misplaced e => rfl
    | beyond spans =>
      exact congrArg (fun y : Yield => { y with skipped := spans ++ y.skipped }) ih
    | site s =>
      have hvalue := h.filling s.miss
      unfold Yield.of
      rcases ha : filling a s.miss with f | r
      · rcases hb : filling b s.miss with g | q
        · rw [ha, hb] at hvalue
          cases hvalue
          rfl
        · rw [ha, hb] at hvalue
          cases hvalue
      · rcases hb : filling b s.miss with g | q
        · rw [ha, hb] at hvalue
          cases hvalue
        · have hsame : r.value = q.value := by
            rw [ha, hb] at hvalue
            exact Except.ok.inj hvalue
          dsimp only
          unfold Yield.bare at ih ⊢
          dsimp only
          rw [List.map_cons, List.map_cons, Substitution.bare_of, Substitution.bare_of, hsame]
          exact congrArg (fun y : Yield =>
            { y with substitutions := Substitution.of q.value s .primary :: y.substitutions }) ih

end Agrees

/-- The module of what a scan comes to keeps nothing of outcomes but what its substitutions have. -/
theorem Yield.body_bare (y : Yield) (id source : String) (mark text : List Char) (index : LineIndex) :
    (y.body id source mark text index).map Module.bare = y.bare.body id source mark text index := by
  have hending : y.bare.ending = y.ending := rfl
  have hskipped : y.bare.skipped = y.skipped := rfl
  have hrender : Substitution.render text y.bare.substitutions =
      Substitution.render text y.substitutions := Substitution.render_bare text y.substitutions
  unfold Yield.body
  rw [hending, Yield.moduleOf_start, Yield.moduleOf_start, hskipped, hrender]
  rcases y.ending with f | u
  · rfl
  · dsimp only
    rcases nestingErrors id index Guard.traversal.limit y.skipped with e | errors
    · rfl
    · rcases Substitution.render text y.substitutions with f | rendered <;> rfl

/-- Without outcomes and records, configurations that give the same values lead to the same module of a
source, or to the same fault. -/
theorem bodyOf_bare {a b : Config} (h : a.Agrees b) (files : List (String × Text.Bytes))
    (id source : String) :
    (bodyOf a files id source).map Module.bare = (bodyOf b files id source).map Module.bare := by
  unfold bodyOf buildText
  rcases splitMark source.toList with ⟨mark, text⟩
  dsimp only
  split
  · rfl
  · rcases parseModule text with refusal | tree
    · rfl
    · have ha := (buildTree_run a id source mark text (indexOf text) (w := { module := id }) rfl tree).1
      have hb := (buildTree_run b id source mark text (indexOf text) (w := { module := id }) rfl tree).1
      have hsame := Yield.bare_of h (stops a.functionName (indexOf text) Guard.traversal.levels tree)
      show Except.map _ (buildTree a id source mark text (indexOf text) _ tree).result =
        Except.map _ (buildTree b id source mark text (indexOf text) _ tree).result
      rw [ha, hb, Yield.body_bare, Yield.body_bare, hsame, h.name]

/-! ## One source for two -/

namespace Source

/-- The answer of two sources, of which the second is asked for what the first does not have. -/
def answer (first second : Source) (key : String) : Except LookupFault (Option Value) :=
  match first.resolve key with
  | .ok none => second.resolve key
  | found => found

/-- A source that answers like two, one after the other. -/
def Merges (merged first second : Source) : Prop :=
  ∀ key, merged.resolve key = first.answer second key

/-- A source that has no key. -/
def IsEmpty (source : Source) : Prop := ∀ key, source.resolve key = .ok none

/-- The function that asks two sources. -/
def orElse (first second : Source) : Source :=
  .function first.name fun key => (first.answer second key).map (·.getD .null)

theorem defined_eq_some {v w : Value} (h : defined v = some w) : w.isNull = false := by
  unfold defined at h
  split at h
  · cases h
  · rename_i hv
    cases h
    exact Bool.eq_false_iff.mpr hv

/-- What a source has is never the mark for an undefined value. -/
theorem isNull_of_resolve {source : Source} {key : String} {v : Value}
    (h : source.resolve key = .ok (some v)) : v.isNull = false := by
  cases source with
  | function name lookup =>
    unfold resolve at h
    dsimp only at h
    rcases hlookup : lookup key with f | w
    · rw [hlookup] at h
      cases h
    · rw [hlookup] at h
      exact defined_eq_some (Except.ok.inj h)
  | mapping name entries =>
    unfold resolve at h
    dsimp only at h
    rcases hfollow : follow (.view entries) (Key.segments key) with f | w
    · rw [hfollow] at h
      cases h
    · rw [hfollow] at h
      obtain ⟨w, -, hdefined⟩ := Option.bind_eq_some_iff.mp (Except.ok.inj h)
      exact defined_eq_some hdefined

theorem isNull_of_answer {first second : Source} {key : String} {v : Value}
    (h : first.answer second key = .ok (some v)) : v.isNull = false := by
  unfold answer at h
  split at h
  · exact isNull_of_resolve h
  · exact isNull_of_resolve h

theorem orElse_merges (first second : Source) : (first.orElse second).Merges first second := by
  intro key
  unfold orElse resolve
  dsimp only
  rcases hanswer : first.answer second key with f | (_ | v)
  · rfl
  · rfl
  · have hv : v.isNull = false := isNull_of_answer hanswer
    show Except.ok (defined v) = .ok (some v)
    rw [defined, hv]
    rfl

end Source

namespace Config

/-- A first source with a fallback gives the values of the source that both make up. -/
theorem agrees_merged (name : String) {first second merged : Source}
    (h : merged.Merges first second) :
    Agrees { primary := some first, functionName := name, fallback := some second }
      { primary := some merged, functionName := name } := by
  refine ⟨rfl, fun m => ?_⟩
  unfold resolved resolvedOther
  dsimp only
  rw [h m.key, Source.answer]
  rcases first.resolve m.key with f | (_ | v)
  · rfl
  · dsimp only
    rcases second.resolve m.key with f | (_ | v) <;> rfl
  · rfl

/-- No source gives the values of a source that has no key. -/
theorem agrees_empty (name : String) (fallback : Option Source) {source : Source}
    (h : source.IsEmpty) :
    Agrees { functionName := name, fallback } { primary := some source, functionName := name } := by
  refine ⟨rfl, fun m => ?_⟩
  unfold resolved resolvedOther
  dsimp only
  rw [h m.key]
  rfl

/-- Configurations under which every text is built alike, or not built for the same reason, whatever was
built before. Only the outcomes of substitutions and the records may differ. -/
def Alike (a b : Config) : Prop :=
  ∀ c c' : Compilation, c.config = a → c'.config = b → c.files = c'.files → ∀ id source,
    (c.buildModule id source).2.map Module.bare = (c'.buildModule id source).2.map Module.bare

end Config

open Config (Alike)

/-- A build gives the body of its source, without outcomes and records. -/
theorem Compilation.buildModule_bare (c : Compilation) (id source : String) :
    (c.buildModule id source).2.map Module.bare =
      (bodyOf c.config c.files id source).map Module.bare := by
  obtain ⟨w, -, hrun⟩ := c.buildModule_run id
  rw [hrun source]
  rcases bodyOf c.config c.files id source with f | m
  · rfl
  · exact congrArg Except.ok (m.bare_withRecords _)

theorem Config.Agrees.alike {a b : Config} (h : a.Agrees b) : Alike a b := by
  rintro c c' rfl rfl hfiles id source
  rw [c.buildModule_bare, c'.buildModule_bare, hfiles, bodyOf_bare h]

/-- A first source with a fallback is as good as the one source that has what the first has, and else what
the fallback has; and no source, whatever the fallback, is as good as a source that has no key. Builds differ
in outcomes and records only, and there is a module of each text without a null character if the sources
answer every key and the calls have their places. -/
theorem alike_merged (name : String) :
    (∀ first second merged : Source, merged.Merges first second →
      Alike { primary := some first, functionName := name, fallback := some second }
        { primary := some merged, functionName := name }) ∧
    (∀ fallback (source : Source), source.IsEmpty →
      Alike { functionName := name, fallback } { primary := some source, functionName := name }) ∧
    ∀ (c : Compilation) id source, c.config.Total → Placed source → '\x00' ∉ source.toList →
      ∃ m, (c.buildModule id source).2 = .ok m := by
  refine ⟨fun first second merged h => (Config.agrees_merged name h).alike,
    fun fallback source h => (Config.agrees_empty name fallback h).alike, ?_⟩
  intro c id source htotal hplaced hnull
  obtain ⟨m, hm⟩ := (bodyOf_of_placed c.files id htotal hplaced).2 hnull
  obtain ⟨w, -, hrun⟩ := c.buildModule_run id
  rw [hrun source, hm]
  exact ⟨_, rfl⟩

/-- A source with values that are empty, zero and false. -/
def falsy : Source := .ofMap "falsy" [("a", .text ""), ("b", .map [("c", .int 0)]), ("d", .bool false)]

/-- A source that has other values for some of these keys. -/
def truthy : Source := .ofTable "truthy" [("a", .text "A"), ("b.c", .int 1), ("k", .text "K")]

/-- A first source with values that are empty, zero and false goes together with another one, a source has
no key, and the sample is built. -/
theorem alike_merged_falsy :
    ((falsy.orElse truthy).Merges falsy truthy ∧ (Source.ofTable "none" []).IsEmpty ∧
      sampleConfig.Total ∧ Placed sample ∧ '\x00' ∉ sample.toList) ∧
    Alike { primary := some falsy, functionName := "__", fallback := some truthy }
      { primary := some (falsy.orElse truthy), functionName := "__" } ∧
    Alike { functionName := "__", fallback := some truthy }
      { primary := some (.ofTable "none" []), functionName := "__" } ∧
    ∃ m, ((Compilation.fresh sampleConfig []).buildModule "a.py" sample).2 = .ok m := by
  have hmerges := Source.orElse_merges falsy truthy
  have hempty : (Source.ofTable "none" []).IsEmpty := fun _ => rfl
  have hplaced := placed_of_exists treeOf?_sample
  have hnull : '\x00' ∉ sample.toList := by decide +kernel
  obtain ⟨htwo, hnone, hbuilt⟩ := alike_merged "__"
  exact ⟨⟨hmerges, hempty, sampleConfig_total, hplaced, hnull⟩, htwo _ _ _ hmerges, hnone _ _ hempty,
    hbuilt (Compilation.fresh sampleConfig []) "a.py" sample sampleConfig_total hplaced hnull⟩

-- What is empty, zero or false is a value, and the other source is not asked for it.
example : ["a", "b.c", "d", "k"].map (falsy.answer truthy) =
    [.ok (some (.text "")), .ok (some (.int 0)), .ok (some (.bool false)), .ok (some (.text "K"))] :=
  by rfl

end Localize
