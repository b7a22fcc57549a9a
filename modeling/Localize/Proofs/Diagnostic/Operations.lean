/-
  Windows under operations. Each operation does to windows what it does to their ledger and gives the
  same back (`perform_ledger`), and so do all of them one after the other; what windows tell is what
  the ledger tells (`performAll_tells`).
-/
import Localize.Proofs.Diagnostic.Ledger

namespace Localize.Aggregator

/-- What an operation makes of windows, if it is what it makes of their ledger. -/
structure InStep (r : Aggregator × Answer) (k : Ledger × Answer) : Prop where
  tidy : r.1.Tidy
  ledger : k = (r.1.ledger, r.2)

/-! ## Steps -/

theorem keys_eq_misses (w : Window) (s : Severity) : w.keys s = (w.misses s).map Miss.key := by
  unfold Window.keys Window.misses
  cases w.get? s <;> rfl

/-- A window that takes a miss is a page with the miss, unless the page has its key. -/
theorem page_record (w : Window) (e : Entry) (id : Nat) :
    (w.record e).page id =
      if e.miss.key ∈ (w.misses e.severity).map Miss.key then w.page id
      else (w.page id).append e.severity e.miss := by
  have hmisses : (w.record e).misses = fun t => if t = e.severity then keep (w.misses t) e.miss
      else w.misses t := funext (w.misses_record e)
  unfold Window.page
  rw [w.isSealed_record e, hmisses]
  split
  · rename_i hkey
    refine congrArg (Page.mk _ _) (funext fun t => ?_)
    by_cases ht : t = e.severity
    · rw [if_pos ht, ht, keep, if_pos hkey]
    · rw [if_neg ht]
  · rename_i hkey
    refine congrArg (Page.mk _ _) (funext fun t => ?_)
    by_cases ht : t = e.severity
    · rw [if_pos ht, if_pos ht, ht, keep, if_neg hkey]
    · rw [if_neg ht, if_neg ht]

section Step

variable {a : Aggregator} {module : String} {id : Nat}

theorem addTo_of_sealed (h : (a.window id).isSealed) (s : Severity) (m : Miss) :
    a.addTo id s m = .error ⟨(a.window id).module, m.key⟩ := by
  unfold addTo Window.add
  rw [if_pos h]
  rfl

theorem addTo_of_open (h : (a.window id).isSealed = false) (s : Severity) (m : Miss) :
    a.addTo id s m = .ok (a.put id ((a.window id).record ⟨s, m⟩),
      !(((a.window id).misses s).map Miss.key).contains m.key) := by
  unfold addTo Window.add
  rw [h, keys_eq_misses]
  rfl

theorem inStep_addTo (h : a.Tidy) (hid : a.current? module = some id) (s : Severity) (m : Miss) :
    InStep (a.orRefused (a.addTo id s m)) (a.ledger.write module ((a.window id).page id) s m) := by
  have hmem := mem_of_current? hid
  have hown : (a.window id).module = module := h.sound.own _ hmem
  rw [Ledger.write, Window.isSealed_page, Window.misses_page]
  by_cases hsealed : (a.window id).isSealed
  · rw [addTo_of_sealed hsealed, hown, if_pos hsealed]
    exact ⟨h, rfl⟩
  · have hmodule := ((a.window id).module_record ⟨s, m⟩).trans hown
    have htidy := h.put hid hmodule ((h.sound.proper _ hmem).record ⟨s, m⟩)
    have hledger := h.ledger_put hid hmodule
    rw [page_record] at hledger
    rw [addTo_of_open (by simpa using hsealed), if_neg hsealed]
    by_cases hkey : m.key ∈ ((a.window id).misses s).map Miss.key
    · rw [if_pos hkey, h.put_page hid] at hledger
      rw [if_pos hkey, List.contains_iff_mem.mpr hkey]
      exact ⟨htidy, by rw [← hledger]; rfl⟩
    · rw [if_neg hkey] at hledger
      rw [if_neg hkey, Bool.eq_false_iff.mpr (mt List.contains_iff_mem.mp hkey)]
      exact ⟨htidy, by rw [← hledger]; rfl⟩

theorem inStep_close (h : a.Tidy) (hid : a.current? module = some id) (answer : Answer) :
    InStep (a.close id, answer)
      (a.ledger.put module { (a.window id).page id with isSealed := true }, answer) := by
  have hmem := mem_of_current? hid
  have hown : (a.window id).close.module = module := h.sound.own _ hmem
  refine ⟨h.put hid hown (h.sound.proper _ hmem).close, ?_⟩
  have hpage : ((a.window id).close).page id = { (a.window id).page id with isSealed := true } :=
    congrArg (Page.mk _ _) (funext fun s => by cases s <;> rfl)
  rw [← hpage, ← h.ledger_put hid hown]
  rfl

theorem close_of_stale (h : a.Tidy) (hid : id ∉ a.current.map Prod.snd) : a.close id = a := by
  have hclose : (a.window id).close = a.window id := by
    have hsealed := h.stale id hid
    unfold Window.close
    rw [← hsealed]
  rw [close, hclose, put_window]

theorem inStep_renew (h : a.Tidy)
    (hsealed : ∀ id, a.current? module = some id → (a.window id).isSealed) :
    InStep ((a.renew module).1, .window (a.renew module).2)
      (a.ledger.renew module, .window a.ledger.issued.length) := by
  refine ⟨h.renew hsealed, ?_⟩
  rw [h.ledger_renew, show a.ledger.issued.length = a.windows.length from List.length_map _]
  rfl

/-- A miss of a module that has no window goes to a new one. -/
theorem inStep_add_renew (h : a.Tidy) (hnone : a.current? module = none) (s : Severity) (m : Miss) :
    InStep (a.orRefused ((a.renew module).1.addTo (a.renew module).2 s m))
      ((a.ledger.renew module).write module { id := a.ledger.issued.length } s m) := by
  have htidy : (a.renew module).1.Tidy := h.renew fun id hid => by rw [hnone] at hid; cases hid
  have hid := current?_renewed a module
  have hopen : ((a.renew module).1.window (a.renew module).2).isSealed = false := by
    rw [window_renew_new]
  have hstep := inStep_addTo htidy hid s m
  rw [h.ledger_renew, window_renew_new, Window.page_empty] at hstep
  rw [show a.ledger.issued.length = (a.renew module).2 from List.length_map _]
  rw [addTo_of_open hopen] at hstep ⊢
  exact hstep

theorem report?_page {w : Window} (h : w.Proper) (id : Nat) (s : Severity) :
    (w.page id).report? w.module s = (w.get? s).map Record.report := by
  rw [Page.report?, Window.misses_page]
  rcases hr : w.get? s with _ | r
  · rw [if_pos ((h.misses_eq_nil_iff s).mpr hr)]
    rfl
  · obtain ⟨hmodule, hseverity, hne⟩ := h s r hr
    have hmisses : w.misses s = r.misses := by rw [Window.misses, hr]; rfl
    rw [hmisses, if_neg hne, ← hmodule, ← hseverity]
    rfl

theorem view_page {w : Window} (h : w.Proper) (id : Nat) : (w.page id).view w.module = w.view := by
  rw [Page.view, report?_page h, report?_page h, Window.view, Window.records, List.map_append,
    ← Option.toList_map, ← Option.toList_map]
  rfl

/-- A window keeps what it tells when it is sealed. -/
theorem view_close (h : a.Tidy) (hid : a.current? module = some id) :
    ((a.close id).window id).view = ((a.window id).page id).view module := by
  have hmem := mem_of_current? hid
  have hown : (a.window id).module = module := h.sound.own _ hmem
  rw [close, window_put (h.sound.given _ hmem), if_pos rfl, ← hown, view_page (h.sound.proper _ hmem)]
  rfl

/-- Every operation does to windows what it does to their ledger. -/
theorem perform_ledger (h : a.Tidy) (op : Operation) :
    InStep (a.perform op) (a.ledger.perform op) := by
  cases op with
  | openModule module =>
    unfold perform Ledger.perform
    dsimp only
    rw [page?_ledger, openWindow]
    rcases hid : a.current? module with _ | id
    · exact inStep_renew h fun id hid' => by rw [hid] at hid'; cases hid'
    · rw [Option.map_some]
      dsimp only
      rw [Window.isSealed_page]
      by_cases hsealed : (a.window id).isSealed
      · rw [if_pos hsealed, if_pos hsealed]
        refine inStep_renew h fun id' hid' => ?_
        rw [hid] at hid'
        exact Option.some.inj hid' ▸ hsealed
      · rw [if_neg hsealed, if_neg hsealed]
        exact ⟨h, rfl⟩
  | sealModule module =>
    unfold perform Ledger.perform
    dsimp only
    rw [page?_ledger, close?]
    rcases hid : a.current? module with _ | id
    · exact ⟨h, rfl⟩
    · show InStep (a.close id, .finished ((a.close id).window id).view) _
      rw [view_close h hid]
      exact inStep_close h hid _
  | addTo module s m =>
    unfold perform Ledger.perform
    dsimp only
    rw [page?_ledger, add]
    rcases hid : a.current? module with _ | id
    · have hopen : a.openWindow module = a.renew module := by rw [openWindow, hid]
      rw [Option.map_none]
      dsimp only
      rw [hopen]
      exact inStep_add_renew h hid s m
    · exact inStep_addTo h hid s m
  | write id s m =>
    unfold perform Ledger.perform
    dsimp only
    rcases h.current_or_stale id with ⟨module, hid⟩ | hstale
    · rw [h.owner?_of_current hid]
      exact inStep_addTo h hid s m
    · rw [Tidy.owner?_of_stale hstale, addTo_of_sealed (h.stale id hstale), module_window]
      exact ⟨h, rfl⟩
  | sealWindow id =>
    unfold perform Ledger.perform
    dsimp only
    rcases h.current_or_stale id with ⟨module, hid⟩ | hstale
    · rw [h.owner?_of_current hid]
      exact inStep_close h hid .done
    · rw [Tidy.owner?_of_stale hstale, close_of_stale h hstale]
      exact ⟨h, rfl⟩

end Step

/-- All operations do to windows what they do to their ledger, and give the same back. -/
theorem performAll_ledger {a : Aggregator} (h : a.Tidy) (ops : List Operation) :
    (a.performAll ops).1.Tidy ∧
      a.ledger.performAll ops = ((a.performAll ops).1.ledger, (a.performAll ops).2) := by
  induction ops generalizing a with
  | nil => exact ⟨h, rfl⟩
  | cons op ops ih =>
    have hstep := perform_ledger h op
    obtain ⟨htidy, hrest⟩ := ih hstep.tidy
    refine ⟨htidy, ?_⟩
    rw [Ledger.performAll, hstep.ledger]
    dsimp only
    rw [hrest]
    rfl

/-! ## What windows tell -/

/-- Windows tell what a ledger tells, one record of a severity for a module at most. -/
structure Tells (a : Aggregator) (l : Ledger) : Prop where
  records : ∀ s, (a.records s).map Record.report = l.records s
  single : ∀ s, ((a.records s).map Record.module).Nodup
  get : ∀ module s, (a.get? module s).map Record.report = l.get? module s
  forModule : ∀ module, (a.forModule module).view = l.forModule module
  contains : ∀ module, a.contains module = l.contains module
  hasErrors : a.hasErrors = l.hasErrors

section Tells

variable {a : Aggregator}

theorem records_ledger (h : a.Tidy) (s : Severity) :
    (a.records s).map Record.report = a.ledger.records s := by
  unfold Aggregator.records ledger Ledger.records
  rw [List.map_filterMap, List.filterMap_map]
  refine List.filterMap_congr fun e he => ?_
  have hreport := report?_page (h.sound.proper e he) e.2 s
  rw [h.sound.own e he] at hreport
  exact hreport.symm

/-- The records of a severity are of different modules. -/
theorem nodup_records (h : a.Tidy) (s : Severity) : ((a.records s).map Record.module).Nodup := by
  have hsublist : ∀ entries ⊆ a.current,
      ((entries.filterMap fun e => (a.window e.2).get? s).map Record.module).Sublist
        (entries.map Prod.fst) := by
    intro entries
    induction entries with
    | nil => exact fun _ => List.Sublist.refl []
    | cons e entries ih =>
      intro hsub
      have hrest := ih fun x hx => hsub (List.mem_cons_of_mem e hx)
      have he := hsub List.mem_cons_self
      rw [List.filterMap_cons, List.map_cons]
      rcases hr : (a.window e.2).get? s with _ | r
      · exact hrest.cons _
      · have hmodule : r.module = e.1 :=
          (h.sound.proper e he s r hr).1.trans (h.sound.own e he)
        rw [List.map_cons, hmodule]
        exact hrest.cons_cons _
  exact (hsublist a.current fun _ he => he).nodup h.distinct

theorem hasErrors_ledger (h : a.Tidy) : a.hasErrors = a.ledger.hasErrors := by
  have hnil : ∀ e ∈ a.current, (a.window e.2).get? .error = none ↔
      (a.window e.2).misses .error = [] :=
    fun e he => ((h.sound.proper e he).misses_eq_nil_iff .error).symm
  have hall : a.records .error = [] ↔ ∀ e ∈ a.current, (a.window e.2).misses .error = [] := by
    rw [Aggregator.records, List.filterMap_eq_nil_iff]
    exact forall₂_congr hnil
  have hledger : a.ledger.hasErrors = false ↔ ∀ e ∈ a.current, (a.window e.2).misses .error = [] := by
    rw [Ledger.hasErrors, ledger, List.any_map, List.any_eq_false]
    simp only [Function.comp_apply, decide_eq_true_eq, ne_eq, not_not]
    exact Iff.rfl
  rcases hrecords : a.ledger.hasErrors with _ | _
  · rw [Aggregator.hasErrors, hall.mpr (hledger.mp hrecords)]
    rfl
  · have hne : a.records .error ≠ [] := by
      rw [ne_eq, hall, ← hledger, hrecords]
      decide
    rw [Aggregator.hasErrors, List.isEmpty_eq_false_iff.mpr hne]
    rfl

theorem tells_ledger (h : a.Tidy) : a.Tells a.ledger where
  records := records_ledger h
  single := nodup_records h
  get := by
    intro module s
    rw [Ledger.get?, page?_ledger, get?, window?]
    rcases hid : a.current? module with _ | id
    · rfl
    · have hmem := mem_of_current? hid
      have hreport := report?_page (h.sound.proper _ hmem) id s
      rw [h.sound.own _ hmem] at hreport
      exact hreport.symm
  forModule := by
    intro module
    rw [Ledger.forModule, page?_ledger, forModule, window?]
    rcases hid : a.current? module with _ | id
    · rfl
    · have hmem := mem_of_current? hid
      have hview := view_page (h.sound.proper _ hmem) id
      rw [h.sound.own _ hmem] at hview
      exact hview.symm
  contains := by
    intro module
    rw [Ledger.contains, page?_ledger, contains, Option.isSome_map]
  hasErrors := hasErrors_ledger h

/-- A refusal changes nothing. -/
theorem perform_refused {op : Operation} {f : SealedFault} (h : (a.perform op).2 = .refused f) :
    (a.perform op).1 = a := by
  have horRefused (r : Except SealedFault (Aggregator × Bool)) (h : (a.orRefused r).2 = .refused f) :
      (a.orRefused r).1 = a := by
    rcases r with _ | _
    · rfl
    · cases h
  cases op with
  | openModule module => cases h
  | sealModule module =>
    unfold perform at h ⊢
    dsimp only at h ⊢
    rcases hclose : a.close? module with _ | _
    · rfl
    · rw [hclose] at h
      cases h
  | addTo module s m => exact horRefused _ h
  | write id s m => exact horRefused _ h
  | sealWindow id => cases h

/-- Nothing can be written by a number that no module's page has. -/
theorem perform_write_stale (h : a.Tidy) {id : Nat} (hid : a.ledger.owner? id = none) (s : Severity)
    (m : Miss) : ∃ f, a.perform (.write id s m) = (a, .refused f) := by
  have hstale : id ∉ a.current.map Prod.snd := by
    rcases h.current_or_stale id with ⟨module, hcurrent⟩ | hstale
    · rw [h.owner?_of_current hcurrent] at hid
      cases hid
    · exact hstale
  refine ⟨⟨(a.window id).module, m.key⟩, ?_⟩
  unfold perform
  dsimp only
  rw [addTo_of_sealed (h.stale id hstale)]
  rfl

end Tells

/-- Whatever is done with windows, they give back and tell what a ledger does. What is written by the
number of a page that was given up is refused, and a refusal changes nothing. -/
theorem performAll_tells (ops : List Operation) :
    ∃ (a : Aggregator) (l : Ledger) (answers : List Answer),
      ({} : Aggregator).performAll ops = (a, answers) ∧
      ({} : Ledger).performAll ops = (l, answers) ∧ a.Tells l ∧
      (∀ id s m, l.owner? id = none → ∃ f, a.perform (.write id s m) = (a, .refused f)) ∧
      ∀ op f, (a.perform op).2 = .refused f → (a.perform op).1 = a := by
  obtain ⟨htidy, hledger⟩ := performAll_ledger tidy_empty ops
  exact ⟨_, _, _, rfl, hledger, tells_ledger htidy, fun _ s m hid => perform_write_stale htidy hid s m,
    fun _ _ => perform_refused⟩

/-- A module is opened again; what is written by the number of its first window is refused. -/
theorem performAll_tells_reopened :
    ∃ a f, (({} : Aggregator).performAll [.openModule "m", .sealModule "m", .openModule "m"]).1 = a ∧
      a.perform (.write 0 .warning ⟨"k", "t", none⟩) = (a, .refused f) := by
  obtain ⟨a, l, answers, ha, hl, -, hstale, -⟩ :=
    performAll_tells [.openModule "m", .sealModule "m", .openModule "m"]
  obtain rfl : _ = l := congrArg Prod.fst hl
  obtain ⟨f, hf⟩ := hstale 0 .warning ⟨"k", "t", none⟩ rfl
  exact ⟨a, f, congrArg Prod.fst ha, hf⟩

end Localize.Aggregator
