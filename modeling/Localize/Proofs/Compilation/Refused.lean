/-
  Builds with sources that refuse keys. A source that is read, with its calls in their places, has a
  body just if there is something to fill each folded call with (`exists_bodyOf_iff`), and else the
  fault of the build is that of such a call (`fault_of_bodyOf`). What a call is filled with is up to
  the answer of the first source or, if that does not have the key, to that of the fallback
  (`filling_eq_error_iff_answer`). Sources of maps refuse a key only where the walk along it comes to
  a list with a numeral of more digits than an integer may have, and the value at the end of a walk
  is not put in place if it holds an integer of too many digits itself (`filling_eq_error_iff`). So
  these are the only ways in which a key in a source makes a call fail (`run_of_maps`).
-/
import Localize.Proofs.Compilation.Settled
import Localize.Proofs.Source.Spelling
import Localize.Proofs.Source.Walk

namespace Localize

open Syntax

/-! ## The fault of a body -/

/-- A call site that is folded in a source. -/
def CallSite.FoldedIn (config : Config) (source : String) (s : CallSite) : Prop :=
  ∃ tree path, treeOf? source = some tree ∧
    tree.FoldedAt config.functionName (indexOf (textOf source)) Guard.traversal.levels path s

/-- A scan whose stops have their places ends early only at a call that cannot be filled. -/
theorem Yield.site_of_ending {config : Config} {ss : List Stop} {f : ScanFault}
    (hplaced : ∀ e, Stop.misplaced e ∉ ss) (h : (Yield.of config ss).ending = .error f) :
    ∃ s, Stop.site s ∈ ss ∧ filling config s.miss = .error f := by
  induction ss with
  | nil => cases h
  | cons stop rest ih =>
    have hrest : ∀ e, Stop.misplaced e ∉ rest := fun e he => hplaced e (List.mem_cons_of_mem _ he)
    cases stop with
    | misplaced e => exact absurd List.mem_cons_self (hplaced e)
    | beyond spans =>
      obtain ⟨s, hs, hf⟩ := ih hrest h
      exact ⟨s, List.mem_cons_of_mem _ hs, hf⟩
    | site t =>
      unfold Yield.of at h
      rcases ht : filling config t.miss with g | r
      · rw [ht] at h
        cases h
        exact ⟨t, List.mem_cons_self, ht⟩
      · rw [ht] at h
        obtain ⟨s, hs, hf⟩ := ih hrest h
        exact ⟨s, List.mem_cons_of_mem _ hs, hf⟩

section Body

variable {config : Config} {source : String} {tree : Node}
  (hread : treeOf? source = some tree) (hplaced : tree.WellPlaced (splitLines (textOf source)))

include hread hplaced

/-- The stops of a scan are the call sites that are folded. -/
theorem foldedIn_iff (s : CallSite) :
    s.FoldedIn config source ↔
      Stop.site s ∈ stops config.functionName (indexOf (textOf source)) Guard.traversal.levels tree := by
  have hstop : ∀ t : Stop, t.site? = some s ↔ t = .site s := by
    intro t
    cases t <;> simp [Stop.site?]
  have hsites : s ∈ sites config.functionName (indexOf (textOf source)) Guard.traversal.levels tree ↔
      Stop.site s ∈ stops config.functionName (indexOf (textOf source)) Guard.traversal.levels tree := by
    simp [sites, List.mem_filterMap, hstop]
  rw [← hsites, mem_sites_iff (wellPlaced_indexOf hplaced)]
  constructor
  · rintro ⟨tree', path, hread', hfolded⟩
    cases hread.symm.trans hread'
    exact ⟨path, hfolded⟩
  · rintro ⟨path, hfolded⟩
    exact ⟨tree, path, hread, hfolded⟩

variable (files : List (String × Text.Bytes)) (id : String)

/-- A source that is read has a body just if there is something to fill each call with that is folded. -/
theorem exists_bodyOf_iff :
    (∃ m, bodyOf config files id source = .ok m) ↔
      ∀ s : CallSite, s.FoldedIn config source → ∃ r, filling config s.miss = .ok r := by
  have hwell := wellPlaced_indexOf hplaced
  constructor
  · rintro ⟨m, hm⟩ s hs
    have hfeasible := feasible_of_ending (moduleOf_of_bodyOf hread hm).1
    exact hfeasible.2 s ((foldedIn_iff hread hplaced s).mp hs)
  · intro hfilled
    have hfeasible :
        Feasible config (stops config.functionName (indexOf (textOf source))
          Guard.traversal.levels tree) :=
      ⟨not_misplaced config.functionName hwell.located _,
        fun s hs => hfilled s ((foldedIn_iff hread hplaced s).mpr hs)⟩
    obtain ⟨m, hm, -⟩ := body_of_feasible config hwell hfeasible id source (markOf source)
    exact ⟨m, (bodyOf_of_tree config files id hread).trans hm⟩

/-- Why a source that is read has no body: a call that is folded cannot be filled. -/
theorem fault_of_bodyOf {f : BuildFault} (h : bodyOf config files id source = .error f) :
    ∃ (s : CallSite) (g : ScanFault), s.FoldedIn config source ∧ filling config s.miss = .error g ∧
      f = .scan g := by
  have hwell := wellPlaced_indexOf hplaced
  have hplaces := not_misplaced config.functionName hwell.located Guard.traversal.levels
  rcases hending : (scanOf config (textOf source) tree).ending with g | u
  · obtain ⟨s, hs, hg⟩ := Yield.site_of_ending hplaces hending
    rw [bodyOf_of_tree config files id hread, Yield.body, hending] at h
    cases h
    exact ⟨s, g, (foldedIn_iff hread hplaced s).mpr hs, hg, rfl⟩
  · obtain ⟨m, hm, -⟩ :=
      body_of_feasible config hwell (feasible_of_ending hending) id source (markOf source)
    cases h.symm.trans ((bodyOf_of_tree config files id hread).trans hm)

end Body

/-! ## Keys that maps refuse -/

/-- The maps of the sources of a configuration, the first one and the fallback, as far as there are any. -/
structure Config.OfMaps (config : Config) (first second : Option (List (String × Value))) : Prop where
  primary : ∃ name, config.primary = first.map (Source.ofMap name)
  fallback : ∃ name, config.fallback = second.map (Source.ofMap name)

/-- Maps that leave a key undefined: the walk along it is not refused, and leads to null if anywhere. -/
structure LeavesUndefined (entries : List (String × Value)) (key : String) : Prop where
  answered : ∀ count, ¬ (Value.map entries).Overlong (Key.segments key) count
  undefined : ∀ v, (Value.map entries).Leads (Key.segments key) v → v.isNull = true

/-- A key that is refused for a numeral of so many digits: by the first maps, or by the second ones if the
first ones leave it undefined. -/
inductive Refused (first second : Option (List (String × Value))) (key : String) (count : Nat) : Prop
  | first {entries : List (String × Value)} (hfirst : first = some entries)
      (h : (Value.map entries).Overlong (Key.segments key) count)
  | second {entries others : List (String × Value)} (hfirst : first = some entries)
      (hundefined : LeavesUndefined entries key) (hsecond : second = some others)
      (h : (Value.map others).Overlong (Key.segments key) count)

/-- Maps in which the walk along a key comes to a value that is not written. -/
structure LeadsUnwritten (entries : List (String × Value)) (key : String) : Prop where
  answered : ∀ count, ¬ (Value.map entries).Overlong (Key.segments key) count
  unwritten : ∃ v, (Value.map entries).Leads (Key.segments key) v ∧ Json.isWritten v = false

/-- A key whose value is not written: that of the first maps, or that of the second ones if the first ones
leave it undefined. -/
inductive Unwritten (first second : Option (List (String × Value))) (key : String) : Prop
  | first {entries : List (String × Value)} (hfirst : first = some entries)
      (h : LeadsUnwritten entries key)
  | second {entries others : List (String × Value)} (hfirst : first = some entries)
      (hundefined : LeavesUndefined entries key) (hsecond : second = some others)
      (h : LeadsUnwritten others key)

theorem isNull_sealed (v : Value) : v.sealed.isNull = v.isNull := by
  cases v <;> rfl

theorem Source.defined_sealed_eq_none_iff {v : Value} : defined v.sealed = none ↔ v.isNull = true := by
  unfold defined
  rw [isNull_sealed]
  split <;> simp_all

/-! ## Answers of maps -/

section Answers

variable (name : String) (entries : List (String × Value)) (key : String)

/-- A source of maps answers that there is no value just if its maps leave the key undefined. -/
theorem resolve_ofMap_eq_none_iff :
    (Source.ofMap name entries).resolve key = .ok none ↔ LeavesUndefined entries key := by
  constructor
  · intro h
    have hanswered := Source.exists_resolve_ofMap_iff.mp ⟨none, h⟩
    refine ⟨hanswered, fun v hv => ?_⟩
    exact Source.defined_sealed_eq_none_iff.mp ((Source.answer_of_resolve h).1 v hv).symm
  · intro h
    obtain ⟨r?, hanswer⟩ := (@Source.exists_resolve_ofMap_iff name entries key).mpr h.answered
    obtain ⟨hreached, hmissed⟩ := Source.answer_of_resolve hanswer
    by_cases hwalk : ∃ v, (Value.map entries).Leads (Key.segments key) v
    · obtain ⟨v, hv⟩ := hwalk
      rw [hanswer, hreached v hv, Source.defined_sealed_eq_none_iff.mpr (h.undefined v hv)]
    · rw [hanswer, hmissed (not_exists.mp hwalk)]

/-- A source of maps answers with a value that is not written just if the walk comes to one. -/
theorem resolve_ofMap_unwritten_iff :
    (∃ v, (Source.ofMap name entries).resolve key = .ok (some v) ∧ Json.isWritten v = false) ↔
      LeadsUnwritten entries key := by
  constructor
  · rintro ⟨v, hanswer, hunwritten⟩
    refine ⟨Source.exists_resolve_ofMap_iff.mp ⟨_, hanswer⟩, ?_⟩
    obtain ⟨hreached, hmissed⟩ := Source.answer_of_resolve hanswer
    by_cases hwalk : ∃ v', (Value.map entries).Leads (Key.segments key) v'
    · obtain ⟨v', hv'⟩ := hwalk
      have hdefined := hreached v' hv'
      unfold Source.defined at hdefined
      split at hdefined
      · cases hdefined
      · cases hdefined
        exact ⟨v', hv', (Json.isWritten_sealed v').symm.trans hunwritten⟩
    · cases hmissed (not_exists.mp hwalk)
  · rintro ⟨hanswered, v, hv, hunwritten⟩
    obtain ⟨r?, hanswer⟩ := (@Source.exists_resolve_ofMap_iff name entries key).mpr hanswered
    have hnull : ¬ v.sealed.isNull = true := by
      rw [isNull_sealed]
      intro hnull
      cases v <;> cases hnull
      cases hunwritten
    rw [hanswer, (Source.answer_of_resolve hanswer).1 v hv, Source.defined, if_neg hnull]
    exact ⟨_, rfl, (Json.isWritten_sealed v).trans hunwritten⟩

end Answers

/-- What a source of maps does with a key: it refuses it, or it answers with where the walk leads. -/
theorem Source.resolve_ofMap_cases (name : String) (entries : List (String × Value)) (key : String) :
    (∀ count, (Value.map entries).Overlong (Key.segments key) count →
      digitLimit < count ∧ (ofMap name entries).resolve key = .error (.tooManyDigits count)) ∧
    ((∀ count, ¬ (Value.map entries).Overlong (Key.segments key) count) →
      ∃ r?, (ofMap name entries).resolve key = .ok r? ∧
        (∀ v, (Value.map entries).Leads (Key.segments key) v → r? = defined v.sealed) ∧
        ((∀ v, ¬ (Value.map entries).Leads (Key.segments key) v) → r? = none)) := by
  constructor
  · exact fun count hover => ⟨hover.lt, resolve_ofMap_eq_error_iff.mpr ⟨count, hover, rfl⟩⟩
  · intro hnone
    obtain ⟨r?, hanswer⟩ := exists_resolve_ofMap_iff.mpr hnone
    exact ⟨r?, hanswer, answer_of_resolve hanswer⟩

/-! ## Calls that cannot be filled -/

/-- The fault that an answer of a source brings about: its own, or that its value is not written. -/
def faultOf : Except LookupFault (Option Value) → Option ScanFault
  | .error f => some (.fold (.lookup f))
  | .ok none => none
  | .ok (some v) => if Json.isWritten v then none else some (.write .tooManyDigits)

/-- A call cannot be filled for the answer of the first source, or for that of the fallback if the first
one does not have its key. The text of the call can always be put in place. -/
theorem filling_eq_error_iff_answer (config : Config) (m : Miss) (f : ScanFault) :
    filling config m = .error f ↔
      (∃ source, config.primary = some source ∧ faultOf (source.resolve m.key) = some f) ∨
        ∃ source other, config.primary = some source ∧ source.resolve m.key = .ok none ∧
          config.fallback = some other ∧ faultOf (other.resolve m.key) = some f := by
  have htext : Json.isWritten (.text m.text) = true := rfl
  unfold filling resolved resolvedOther
  rcases config.primary with _ | source
  · simp [htext]
  · rcases hfirst : source.resolve m.key with g | (_ | v)
    · simp [hfirst, faultOf]
    · rcases config.fallback with _ | other
      · simp [hfirst, faultOf, htext]
      · rcases hsecond : other.resolve m.key with g | (_ | v)
        · simp [hfirst, hsecond, faultOf]
        · simp [hfirst, hsecond, faultOf, htext]
        · rcases hwritten : Json.isWritten v <;> simp [hfirst, hsecond, faultOf, hwritten]
    · rcases hwritten : Json.isWritten v <;> simp [hfirst, faultOf, hwritten]

theorem faultOf_eq_some_iff (answer : Except LookupFault (Option Value)) (f : ScanFault) :
    faultOf answer = some f ↔
      (∃ g, answer = .error g ∧ f = .fold (.lookup g)) ∨
        (∃ v, answer = .ok (some v) ∧ Json.isWritten v = false) ∧ f = .write .tooManyDigits := by
  rcases answer with g | (_ | v)
  · simpa [faultOf] using eq_comm
  · simp [faultOf]
  · rcases hwritten : Json.isWritten v
    · simpa [faultOf, hwritten] using eq_comm
    · simp [faultOf, hwritten]

theorem faultOf_resolve_ofMap_iff (name : String) (entries : List (String × Value)) (key : String)
    (f : ScanFault) :
    faultOf ((Source.ofMap name entries).resolve key) = some f ↔
      (∃ count, (Value.map entries).Overlong (Key.segments key) count ∧
          f = .fold (.lookup (.tooManyDigits count))) ∨
        LeadsUnwritten entries key ∧ f = .write .tooManyDigits := by
  rw [faultOf_eq_some_iff, resolve_ofMap_unwritten_iff]
  refine or_congr_left ⟨?_, ?_⟩
  · rintro ⟨g, hg, rfl⟩
    obtain ⟨count, hover, rfl⟩ := Source.resolve_ofMap_eq_error_iff.mp hg
    exact ⟨count, hover, rfl⟩
  · rintro ⟨count, hover, rfl⟩
    exact ⟨_, Source.resolve_ofMap_eq_error_iff.mpr ⟨count, hover, rfl⟩, rfl⟩

section Maps

variable {config : Config} {first second : Option (List (String × Value))}

/-- With sources of maps, a call cannot be filled just if its key is refused, or its value is not written. -/
theorem filling_eq_error_iff (h : config.OfMaps first second) (m : Miss) (f : ScanFault) :
    filling config m = .error f ↔
      (∃ count, Refused first second m.key count ∧ f = .fold (.lookup (.tooManyDigits count))) ∨
        Unwritten first second m.key ∧ f = .write .tooManyDigits := by
  obtain ⟨⟨name, hprimary⟩, ⟨other, hfallback⟩⟩ := h
  rw [filling_eq_error_iff_answer, hprimary, hfallback]
  constructor
  · rintro (⟨source, hsource, hfault⟩ | ⟨source, source', hsource, hanswer, hsource', hfault⟩)
    · obtain ⟨entries, hfirst, rfl⟩ := Option.map_eq_some_iff.mp hsource
      rcases (faultOf_resolve_ofMap_iff name entries m.key f).mp hfault with
        ⟨count, hover, rfl⟩ | ⟨hleads, rfl⟩
      · exact .inl ⟨count, .first hfirst hover, rfl⟩
      · exact .inr ⟨.first hfirst hleads, rfl⟩
    · obtain ⟨entries, hfirst, rfl⟩ := Option.map_eq_some_iff.mp hsource
      obtain ⟨others, hsecond, rfl⟩ := Option.map_eq_some_iff.mp hsource'
      have hundefined := (resolve_ofMap_eq_none_iff name entries m.key).mp hanswer
      rcases (faultOf_resolve_ofMap_iff other others m.key f).mp hfault with
        ⟨count, hover, rfl⟩ | ⟨hleads, rfl⟩
      · exact .inl ⟨count, .second hfirst hundefined hsecond hover, rfl⟩
      · exact .inr ⟨.second hfirst hundefined hsecond hleads, rfl⟩
  · have hfirst : ∀ entries, first = some entries →
        first.map (Source.ofMap name) = some (.ofMap name entries) := fun _ heq => congrArg _ heq
    rintro (⟨count, hkey, rfl⟩ | ⟨hkey, rfl⟩)
    · cases hkey with
      | first heq hover =>
        exact .inl ⟨_, hfirst _ heq, (faultOf_resolve_ofMap_iff name _ _ _).mpr (.inl ⟨count, hover, rfl⟩)⟩
      | second heq hundefined heq' hover =>
        exact .inr ⟨_, _, hfirst _ heq, (resolve_ofMap_eq_none_iff name _ _).mpr hundefined,
          congrArg (Option.map (Source.ofMap other)) heq',
          (faultOf_resolve_ofMap_iff other _ _ _).mpr (.inl ⟨count, hover, rfl⟩)⟩
    · cases hkey with
      | first heq hleads =>
        exact .inl ⟨_, hfirst _ heq, (faultOf_resolve_ofMap_iff name _ _ _).mpr (.inr ⟨hleads, rfl⟩)⟩
      | second heq hundefined heq' hleads =>
        exact .inr ⟨_, _, hfirst _ heq, (resolve_ofMap_eq_none_iff name _ _).mpr hundefined,
          congrArg (Option.map (Source.ofMap other)) heq',
          (faultOf_resolve_ofMap_iff other _ _ _).mpr (.inr ⟨hleads, rfl⟩)⟩

theorem exists_filling_iff (h : config.OfMaps first second) (m : Miss) :
    (∃ r, filling config m = .ok r) ↔
      (∀ count, ¬ Refused first second m.key count) ∧ ¬ Unwritten first second m.key := by
  constructor
  · rintro ⟨r, hr⟩
    refine ⟨fun count hkey => ?_, fun hkey => ?_⟩
    · cases hr.symm.trans ((filling_eq_error_iff h m _).mpr (.inl ⟨count, hkey, rfl⟩))
    · cases hr.symm.trans ((filling_eq_error_iff h m _).mpr (.inr ⟨hkey, rfl⟩))
  · rintro ⟨hrefused, hunwritten⟩
    rcases hfilling : filling config m with f | r
    · rcases (filling_eq_error_iff h m f).mp hfilling with ⟨count, hkey, -⟩ | ⟨hkey, -⟩
      · exact absurd hkey (hrefused count)
      · exact absurd hkey hunwritten
    · exact ⟨r, rfl⟩

end Maps

/-! ## Calls -/

namespace Compilation

/-- A source of maps refuses a key just if the walk along it comes to a list with a numeral of more digits
than an integer may have; else it answers with where the walk leads, or that there is no value. With such
sources a call after any others, whose own sources can all be read, returns just if no folded call in them
has a key that is refused or whose value is not written, and else it fails for one of these. -/
theorem run_of_maps {config : Config} {files : List (String × Text.Bytes)}
    {first second : Option (List (String × Value))} (h : config.OfMaps first second)
    {calls : List Call} {call : Call}
    (hids : ∀ call' ∈ call :: calls, (call'.sources.map Prod.fst).Nodup)
    (hread : ∀ job ∈ call.sources,
      ∃ tree, treeOf? job.2 = some tree ∧ tree.WellPlaced (splitLines (textOf job.2))) :
    (∀ name entries key,
      (∀ count, (Value.map entries).Overlong (Key.segments key) count →
        digitLimit < count ∧ (Source.ofMap name entries).resolve key = .error (.tooManyDigits count)) ∧
      ((∀ count, ¬ (Value.map entries).Overlong (Key.segments key) count) →
        ∃ r?, (Source.ofMap name entries).resolve key = .ok r? ∧
          (∀ v, (Value.map entries).Leads (Key.segments key) v → r? = Source.defined v.sealed) ∧
          ((∀ v, ¬ (Value.map entries).Leads (Key.segments key) v) → r? = none))) ∧
    let c := (fresh config files).after calls
    ((∃ ms, (call.run c).2 = .ok ms) ↔
      ∀ job ∈ call.sources, ∀ s : CallSite, s.FoldedIn config job.2 →
        (∀ count, ¬ Refused first second s.key count) ∧ ¬ Unwritten first second s.key) ∧
    ∀ f, (call.run c).2 = .error f →
      ∃ job ∈ call.sources, ∃ s : CallSite, s.FoldedIn config job.2 ∧
        ((∃ count, Refused first second s.key count ∧
            f = .scan (.fold (.lookup (.tooManyDigits count)))) ∨
          Unwritten first second s.key ∧ f = .scan (.write .tooManyDigits)) := by
  refine ⟨Source.resolve_ofMap_cases, ?_⟩
  intro c
  have halong := after_along config files calls
  have hconfig : c.config = config := halong.config
  have hfiles : c.files = files := halong.files
  have htidy : c.aggregator.Tidy :=
    after_tidy Aggregator.tidy_empty fun call' hcall' => hids call' (List.mem_cons_of_mem _ hcall')
  have hcall := hids call List.mem_cons_self
  constructor
  · rw [exists_run_iff htidy hcall, hconfig, hfiles]
    refine forall₂_congr fun job hjob => ?_
    obtain ⟨tree, htree, hplaced⟩ := hread job hjob
    rw [exists_bodyOf_iff htree hplaced files job.1]
    exact forall₂_congr fun s _ => exists_filling_iff h s.miss
  · intro f hf
    obtain ⟨job, hjob, hbody⟩ := (run_done htidy hcall).1.faulty f hf
    rw [hconfig, hfiles] at hbody
    obtain ⟨tree, htree, hplaced⟩ := hread job hjob
    obtain ⟨s, g, hs, hg, rfl⟩ := fault_of_bodyOf htree hplaced files job.1 hbody
    refine ⟨job, hjob, s, hs, ?_⟩
    rcases (filling_eq_error_iff h s.miss g).mp hg with ⟨count, hkey, rfl⟩ | ⟨hkey, rfl⟩
    · exact .inl ⟨count, hkey, rfl⟩
    · exact .inr ⟨hkey, rfl⟩

/-- A source with a key that goes through a list. -/
def guide : String := "x = __('steps[00].title')\n"

/-- A configuration with a list in its maps. -/
def stepsConfig : Config := { primary := some (.ofMap "mapping" Source.stepsTree) }

theorem treeOf?_guide :
    ∃ tree, treeOf? guide = some tree ∧ tree.WellPlaced (splitLines (textOf guide)) := by
  have hcalls : (treeOf? guide).map (fun tree => (tree.exceeds 8, tree.callsTo 8)) =
      some (false, [([0, 1], ⟨⟨1, 4⟩, ⟨1, 25⟩⟩)]) := by decide +kernel
  exact Node.exists_wellPlaced hcalls (by decide +kernel) (by decide +kernel)

theorem key_of_foldedIn_guide {s : CallSite} (h : s.FoldedIn stepsConfig guide) :
    s.key = "steps[00].title" := by
  have hkeys : (treeOf? guide).map (fun tree =>
      (sites "__" (indexOf (textOf guide)) Guard.traversal.levels tree).map CallSite.key) =
        some ["steps[00].title"] := by decide +kernel
  obtain ⟨tree, hread, hplaced⟩ := treeOf?_guide
  have hs := (foldedIn_iff hread hplaced s).mp h
  rw [hread] at hkeys
  have hmem : s.key ∈ ["steps[00].title"] := by
    rw [← Option.some.inj hkeys]
    exact List.mem_map_of_mem (List.mem_filterMap.mpr ⟨_, hs, rfl⟩)
  exact List.mem_singleton.mp hmem

/-- A call for two modules with this source. -/
def guideCall : Call := .many [("a.py", guide), ("b.py", guide)] 2 fun _ => true

/-- Sources whose keys have short numerals and lead to a text. -/
theorem run_of_maps_guide :
    ∃ ms, stepsConfig.OfMaps (some Source.stepsTree) none ∧
      (∀ call' ∈ [guideCall, .one "a.py" guide], (call'.sources.map Prod.fst).Nodup) ∧
      (∀ job ∈ guideCall.sources,
        ∃ tree, treeOf? job.2 = some tree ∧ tree.WellPlaced (splitLines (textOf job.2))) ∧
      (guideCall.run ((fresh stepsConfig []).after [.one "a.py" guide])).2 = .ok ms := by
  have hmaps : stepsConfig.OfMaps (some Source.stepsTree) none := ⟨⟨"mapping", rfl⟩, ⟨"", rfl⟩⟩
  have hids : ∀ call' ∈ [guideCall, .one "a.py" guide], (call'.sources.map Prod.fst).Nodup := by decide
  have hread : ∀ job ∈ guideCall.sources,
      ∃ tree, treeOf? job.2 = some tree ∧ tree.WellPlaced (splitLines (textOf job.2)) := by
    intro job hjob
    rcases List.mem_pair.mp hjob with rfl | rfl <;> exact treeOf?_guide
  have hshort : ∀ n ∈ (Key.segments "steps[00].title").map String.length, n ≤ 5 := by decide +kernel
  have hrefused : ∀ count, ¬ Refused (some Source.stepsTree) none "steps[00].title" count := by
    intro count hkey
    cases hkey with
    | first _ hover =>
      have hle := hshort count hover.mem_lengths
      have hlt : 4300 < count := hover.lt
      omega
    | second _ _ hsecond _ => cases hsecond
  have hunwritten : ¬ Unwritten (some Source.stepsTree) none "steps[00].title" := by
    intro hkey
    cases hkey with
    | first hfirst hleads =>
      cases hfirst
      obtain ⟨v, hv, hunwritten⟩ := (resolve_ofMap_unwritten_iff "mapping" _ _).mpr hleads
      cases hv
      cases hunwritten
    | second _ _ hsecond _ => cases hsecond
  obtain ⟨ms, hms⟩ := (@run_of_maps _ [] _ _ hmaps _ _ hids hread).2.1.mpr fun job hjob s hs => by
    have hkey : s.key = "steps[00].title" := by
      rcases List.mem_pair.mp hjob with rfl | rfl <;> exact key_of_foldedIn_guide hs
    rw [hkey]
    exact ⟨hrefused, hunwritten⟩
  exact ⟨ms, hmaps, hids, hread, hms⟩

/-- A configuration with an integer that has one digit too many. -/
def hugeConfig : Config := { primary := some (.ofMap "mapping" [("a", .int (Nat.pow 10 digitLimit))]) }

/-- The key of this integer is answered, and makes the build fail. -/
example :
    (hugeConfig.primary.map fun source => (source.resolve "a").isOk) = some true ∧
      (match ((fresh hugeConfig []).buildModule "a.py" "x = __('a')\n").2 with
        | .error f => f.message
        | .ok m => m.output) = noTextMessage := by
  decide +kernel

end Compilation

/-! ## Numerals of zeros -/

namespace Source

/-- The numeral of so many zeros. -/
def zeros (count : Nat) : String := String.ofList (List.replicate count '0')

theorem toList_zeros (count : Nat) : (zeros count).toList = List.replicate count '0' :=
  String.toList_ofList

theorem numeral_zeros {count : Nat} (h : 0 < count) : Numeral (zeros count).toList 0 := by
  have hzero : Text.decimalDigit? '0' = some 0 := by decide
  rw [toList_zeros]
  induction count with
  | zero => exact absurd h (Nat.lt_irrefl 0)
  | succ count ih =>
    rw [List.replicate_succ']
    rcases count with _ | count
    · exact .digit hzero
    · exact .next (ih (Nat.succ_pos count)) hzero

theorem segments_zeros (count : Nat) :
    Key.segments ("items." ++ zeros count) = ["items", zeros count] := by
  have hsimple : ∀ t ∈ ["items", zeros count], Key.Simple t := by
    intro t ht
    rcases List.mem_pair.mp ht with rfl | rfl
    · exact .of_unclosed (by decide) (by decide)
    · exact .of_unclosed (by simp [toList_zeros]) (by simp [toList_zeros])
  exact Key.segments_spelled (by decide) hsimple (.alone (.dotted (zeros count) .nil) (by simp))

/-- With more zeros than an integer may have digits, the walk still leads to the first item of the
list, but the key is refused. -/
theorem resolve_zeros_of_lt (item : Value) {count : Nat} (h : digitLimit < count) :
    (Value.map [("items", .list [item])]).Leads (Key.segments ("items." ++ zeros count)) item ∧
      (ofMap "mapping" [("items", .list [item])]).resolve ("items." ++ zeros count) =
        .error (.tooManyDigits count) := by
  have hnumeral := numeral_zeros (Nat.zero_lt_of_lt h)
  have hlength : (zeros count).length = count := by
    rw [← String.length_toList, toList_zeros, List.length_replicate]
  have hover : (Value.map [("items", .list [item])]).Overlong ["items", zeros count]
      (zeros count).length :=
    .later (fun hrefuses => by cases hrefuses.1) (.key rfl rfl)
      (.here [] ⟨rfl, ⟨0, hnumeral⟩, hlength.symm ▸ h⟩)
  rw [hlength, ← segments_zeros] at hover
  refine ⟨?_, resolve_ofMap_eq_error_iff.mpr ⟨count, hover, rfl⟩⟩
  rw [segments_zeros]
  exact .step (.key rfl rfl) (.step (.item rfl hnumeral rfl) (.here item))

/-- A key that leads to a text and is refused. -/
theorem resolve_zeros :
    (Value.map [("items", .list [.text "x"])]).Leads (Key.segments ("items." ++ zeros 4301))
        (.text "x") ∧
      (ofMap "mapping" [("items", .list [.text "x"])]).resolve ("items." ++ zeros 4301) =
        .error (.tooManyDigits 4301) :=
  resolve_zeros_of_lt (.text "x") (by decide)

end Source

end Localize
