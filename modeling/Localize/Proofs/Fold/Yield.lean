/-
  What a scan comes to, apart from its window. `Yield.of` goes through the stops of a scan and asks
  the sources, but knows neither window nor guard: it lists what is put in place, what is skipped
  and which entries are written. `performAll_run` says that a scan with an open window does exactly
  this, and that its window only takes the entries. So what was in the window before has no effect
  on a scan.
-/
import Localize.Proofs.Diagnostic.Entries
import Localize.Proofs.Fold.Stops

namespace Localize

open Syntax

/-! ## Resolution without a window -/

/-- What a miss is resolved to when the first source does not have its key. -/
def resolvedOther (fallback : Option Source) (m : Miss) : Except LookupFault Resolution :=
  match fallback with
  | none => .ok ⟨.text m.text, .noFallback⟩
  | some source =>
    match source.resolve m.key with
    | .error f => .error f
    | .ok (some value) => .ok ⟨value, .fallback⟩
    | .ok none => .ok ⟨.text m.text, .fallbackMissed⟩

/-- What a miss is resolved to, whatever is recorded of it. -/
def resolved (config : Config) (m : Miss) : Except LookupFault Resolution :=
  match config.primary with
  | none => .ok ⟨.text m.text, .disabled⟩
  | some source =>
    match source.resolve m.key with
    | .error f => .error f
    | .ok (some value) => .ok ⟨value, .primary⟩
    | .ok none => resolvedOther config.fallback m

/-- What a call is filled with: what its miss is resolved to, if that is written. -/
def filling (config : Config) (m : Miss) : Except ScanFault Resolution :=
  match resolved config m with
  | .error f => .error (.fold (.lookup f))
  | .ok r => if Json.isWritten r.value then .ok r else .error (.write .tooManyDigits)

theorem filling_ok_iff {config : Config} {m : Miss} {r : Resolution} :
    filling config m = .ok r ↔ resolved config m = .ok r ∧ Json.isWritten r.value = true := by
  unfold filling
  rcases resolved config m with f | r'
  · simp
  · simp only [Except.ok.injEq]
    split
    · rename_i hwritten
      exact ⟨fun h => by cases h; exact ⟨rfl, hwritten⟩, fun h => congrArg _ h.1⟩
    · rename_i hwritten
      exact ⟨nofun, fun h => absurd (h.1 ▸ h.2) hwritten⟩

/-- Whether an answer is that there is no value. -/
def isMiss : Except LookupFault (Option Value) → Bool
  | .ok none => true
  | _ => false

/-- Whether a source is there and does not have a key. -/
def lacks (source : Option Source) (key : String) : Bool :=
  source.any fun source => isMiss (source.resolve key)

theorem lacks_some (source : Source) (key : String) :
    lacks (some source) key = isMiss (source.resolve key) := rfl

/-- The entry that is written for a miss when the fallback is asked. -/
def entriesOther (fallback : Option Source) (m : Miss) : List Entry :=
  match lacks fallback m.key with
  | true => [⟨.error, m⟩]
  | false => []

/-- The entries that are written while a miss is resolved. -/
def entriesFor (config : Config) (m : Miss) : List Entry :=
  match lacks config.primary m.key with
  | true => ⟨.warning, m⟩ :: entriesOther config.fallback m
  | false => []

namespace Resolution

theorem run_bind {α β : Type} (x : Resolving α) (f : α → Resolving β) (journal : Journal) :
    (x >>= f).run journal =
      match x.run journal with
      | (.ok a, journal') => (f a).run journal'
      | (.error e, journal') => (.error e, journal') := by
  show (match ExceptT.run x journal with
    | (a, journal') => ExceptT.bindCont f a journal') = _
  rcases ExceptT.run x journal with ⟨_ | _, _⟩ <;> rfl

/-- Recording in an open window writes one entry. -/
theorem record_run (s : Severity) (m : Miss) {journal : Journal}
    (h : journal.window.isSealed = false) :
    ∃ events, (record s m).run journal = (.ok (), ⟨journal.window.record ⟨s, m⟩, events⟩) := by
  obtain ⟨isNew, hadd⟩ := Window.add_of_open h ⟨s, m⟩
  refine ⟨if isNew then .missed s (journal.window.record ⟨s, m⟩).module m.key :: journal.events
    else journal.events, ?_⟩
  have hget : (get : Resolving Journal).run journal = (.ok journal, journal) := rfl
  unfold record
  rw [run_bind, hget]
  dsimp only
  rw [hadd]
  rfl

theorem ask_run (source : Source) (key : String) (journal : Journal) :
    (ask source key).run journal = ((source.resolve key).mapError .lookup, journal) := by
  unfold ask
  rcases source.resolve key with f | value <;> rfl

/-- Where the first source does not have a key, the rest is left to the fallback. -/
theorem ofFallback_run (fallback : Option Source) (m : Miss) (journal : Journal)
    (h : journal.window.isSealed = false) :
    ∃ events, (ofFallback fallback m).run journal =
      ((resolvedOther fallback m).mapError .lookup,
        ⟨journal.window.recordAll (entriesOther fallback m), events⟩) := by
  rcases fallback with _ | source
  · exact ⟨journal.events, rfl⟩
  · unfold ofFallback resolvedOther entriesOther
    dsimp only
    rw [run_bind, ask_run, lacks_some]
    rcases source.resolve m.key with f | (_ | value)
    · exact ⟨journal.events, rfl⟩
    · obtain ⟨events, hrecord⟩ := record_run .error m h
      refine ⟨events, ?_⟩
      show ((record .error m) >>= fun _ => (pure ⟨.text m.text, .fallbackMissed⟩ :
        Resolving Resolution)).run journal = _
      rw [run_bind, hrecord]
      rfl
    · exact ⟨journal.events, rfl⟩

/-- Resolving a miss with an open window: what comes out does not depend on the window, which takes
the entries for the miss. -/
theorem of_run (config : Config) (m : Miss) {journal : Journal}
    (h : journal.window.isSealed = false) :
    ∃ events, (of config m).run journal =
      ((resolved config m).mapError .lookup,
        ⟨journal.window.recordAll (entriesFor config m), events⟩) := by
  unfold of resolved entriesFor
  rcases config.primary with _ | source
  · exact ⟨_, rfl⟩
  · dsimp only
    rw [run_bind, ask_run, lacks_some]
    rcases source.resolve m.key with f | (_ | value)
    · exact ⟨journal.events, rfl⟩
    · obtain ⟨events, hrecord⟩ := record_run .warning m h
      have hopen : (journal.window.record ⟨.warning, m⟩).isSealed = false := by
        rw [Window.isSealed_record]
        exact h
      obtain ⟨events', hother⟩ := ofFallback_run config.fallback m
        ⟨journal.window.record ⟨.warning, m⟩, events⟩ hopen
      refine ⟨events', ?_⟩
      show ((record .warning m) >>= fun _ => ofFallback config.fallback m).run journal = _
      rw [run_bind, hrecord]
      dsimp only
      rw [hother]
      rfl
    · exact ⟨journal.events, rfl⟩

end Resolution

/-! ## A scan without a window -/

/-- What a scan comes to: how it ends, what it puts in place and what it skips, in visiting order,
and the entries that it writes. -/
structure Yield where
  ending : Except ScanFault Unit := .ok ()
  substitutions : List Substitution := []
  skipped : List Span := []
  entries : List Entry := []

namespace Yield

/-- What is done at stops comes to, up to the first fault. -/
def of (config : Config) : List Stop → Yield
  | [] => {}
  | .misplaced e :: _ => { ending := .error (.fold (.position e)) }
  | .beyond spans :: rest =>
    let next := of config rest
    { next with skipped := spans ++ next.skipped }
  | .site s :: rest =>
    match filling config s.miss with
    | .error f => { ending := .error f, entries := entriesFor config s.miss }
    | .ok r =>
      let next := of config rest
      { next with
        substitutions := Substitution.of r.value s r.outcome :: next.substitutions
        entries := entriesFor config s.miss ++ next.entries }

/-- The scan that is left where it comes to this, begun at some other scan. -/
def finish (y : Yield) (scan : Scan) (events : List Event) : Scan where
  guard := scan.guard
  journal := ⟨scan.journal.window.recordAll y.entries, events⟩
  substitutions := y.substitutions.reverse ++ scan.substitutions
  skipped := y.skipped.reverse ++ scan.skipped

end Yield

namespace Scan

theorem resolve_run (config : Config) (m : Miss) {scan : Scan}
    (h : scan.journal.window.isSealed = false) :
    ∃ events, (resolve config m).run scan =
      ((resolved config m).mapError fun f => .fold (.lookup f),
        { scan with journal := ⟨scan.journal.window.recordAll (entriesFor config m), events⟩ }) := by
  obtain ⟨events, hrun⟩ := Resolution.of_run config m h
  refine ⟨events, ?_⟩
  show resolve config m scan = _
  unfold resolve
  rw [hrun]
  rcases resolved config m with f | r <;> rfl

/-- Folding a call with an open window: what takes its place does not depend on the window, which takes
the entries for the miss also if nothing does. -/
theorem fill_run (config : Config) (s : CallSite) {scan : Scan}
    (h : scan.journal.window.isSealed = false) :
    ∃ events,
      let asked : Scan :=
        { scan with journal := ⟨scan.journal.window.recordAll (entriesFor config s.miss), events⟩ }
      (fill config s).run scan =
        match filling config s.miss with
        | .error f => (.error f, asked)
        | .ok r =>
          let substitution := Substitution.of r.value s r.outcome
          (.ok (), { asked with substitutions := substitution :: scan.substitutions }) := by
  obtain ⟨events, hresolve⟩ := resolve_run config s.miss h
  refine ⟨events, ?_⟩
  unfold fill filling
  rw [run_bind, ← CallSite.miss, hresolve]
  rcases resolved config s.miss with f | r
  · rfl
  · dsimp only [Except.mapError]
    rw [Substitution.fill_eq]
    rcases Json.isWritten r.value <;> rfl

/-- A scan with an open window comes to what its stops come to, and its window takes the entries. -/
theorem performAll_run (config : Config) (ss : List Stop) (scan : Scan)
    (h : scan.journal.window.isSealed = false) :
    ∃ events, (performAll config ss).run scan =
      ((Yield.of config ss).ending, (Yield.of config ss).finish scan events) := by
  induction ss generalizing scan with
  | nil => exact ⟨scan.journal.events, rfl⟩
  | cons s rest ih =>
    unfold performAll
    rw [run_bind]
    cases s with
    | misplaced e => exact ⟨scan.journal.events, rfl⟩
    | beyond spans =>
      obtain ⟨events, hrest⟩ := ih { scan with skipped := spans.reverse ++ scan.skipped } h
      refine ⟨events, ?_⟩
      show (performAll config rest).run { scan with skipped := spans.reverse ++ scan.skipped } = _
      rw [hrest]
      simp [Yield.of, Yield.finish]
    | site s =>
      obtain ⟨events, hfill⟩ := fill_run config s h
      unfold perform
      rw [hfill]
      unfold Yield.of
      rcases filling config s.miss with f | r
      · exact ⟨events, rfl⟩
      · have hopen : (scan.journal.window.recordAll (entriesFor config s.miss)).isSealed = false := by
          rw [Window.isSealed_recordAll]
          exact h
        obtain ⟨events', hrest⟩ := ih { scan with
          journal := ⟨scan.journal.window.recordAll (entriesFor config s.miss), events⟩
          substitutions := Substitution.of r.value s r.outcome :: scan.substitutions } hopen
        refine ⟨events', hrest.trans ?_⟩
        simp [Yield.finish, Window.recordAll_append]

end Scan

end Localize
