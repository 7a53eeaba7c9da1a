import BusAccess.Proofs.Registry.History
import BusAccess.Proofs.Registry.Selection
import BusAccess.Proofs.Weaving

/-!
# What a registry says of itself

Whoever looks into the log wants to know why there is no bus.  A registry warns once if it has none to
give, and says which of two things is the matter: that the request means nobody, or that whoever was
asked had none either.  If there is a bus it does not warn at all, and there is one remark that tells
how the backend was found.

`Course` lists the five ways in which making a bus can go, each with all that the registry reports and
asks, in order; these are its runs and no others (`runs_createBus_iff`).  The walk through the registry
is the only part that takes an induction.  A backend that declines leaves two steps behind, its refusal
and a remark, so a walk is given by the list of those who declined and by how it ends.

Backends report events of their own while they are asked.  The events of the registry are those of its
own run, into which the runs of the backends are woven.
-/

set_option autoImplicit false

namespace BusAccess

open Log (Event Level)
open Program (Trace Woven events)

namespace Registry

variable {ι β : Type} {t : Trace (creation ι β)} {result : Except Error β}

/-! ## How making a bus goes -/

/-- What happens where a backend declines. -/
def refused (d : ι × Error) : Trace (creation ι β) :=
  [.asked d.1 (.error d.2), .reported (.debug "backend declined")]

/-- The failure that a walk ends with: the last refusal, or `e` if nobody was asked. -/
def failure (e : Error) (ds : List (ι × Error)) : Error := ds.foldl (fun _ d ↦ d.2) e

/-- The ways in which making a bus goes, with what the registry reports and asks. -/
inductive Course (name : ι → String) (entries : List ι) :
    Option String → Trace (creation ι β) → Except Error β → Prop
  | unmatched {wanted : String} (h : ∀ j ∈ entries, ¬ Meant (name j) wanted) :
      Course name entries (some wanted) [.reported (.warn "no backend matches")]
        (.error .invalidName)
  | selected {wanted : String} {i : ι} (bus : β)
      (h : IsFirst (fun j ↦ Meant (name j) wanted) entries i) :
      Course name entries (some wanted)
        [.reported (.debug "explicit selection"), .asked i (.ok bus)] (.ok bus)
  | failed {wanted : String} {i : ι} (e : Error)
      (h : IsFirst (fun j ↦ Meant (name j) wanted) entries i) :
      Course name entries (some wanted) [.reported (.debug "explicit selection"),
        .asked i (.error e), .reported (.warn "can't create instance")] (.error e)
  | probed {ds : List (ι × Error)} {i : ι} {older : List ι} (bus : β)
      (h : entries = ds.map Prod.fst ++ i :: older) :
      Course name entries none
        (ds.flatMap refused ++ [.asked i (.ok bus), .reported (.debug "probed")]) (.ok bus)
  | exhausted {ds : List (ι × Error)} (h : entries = ds.map Prod.fst) :
      Course name entries none
        (ds.flatMap refused ++ [.reported (.warn "can't create instance")])
        (.error (failure .noDevice ds))

/-- **A walk** goes past those who decline, up to the first who does not or to the end. -/
theorem runs_probe_iff {l : List ι} {e : Error} :
    (probe l e).Runs t result ↔ ∃ ds : List (ι × Error),
      (∃ i older bus, l = ds.map Prod.fst ++ i :: older ∧ result = .ok bus ∧
        t = ds.flatMap refused ++ [.asked i (.ok bus), .reported (.debug "probed")]) ∨
      l = ds.map Prod.fst ∧ result = .error (failure e ds) ∧
        t = ds.flatMap refused ++ [.reported (.warn "can't create instance")] := by
  induction l generalizing e t with
  | nil =>
    rw [probe, Program.runs_report]
    constructor
    · rintro ⟨u, rfl, h⟩
      obtain ⟨rfl, rfl⟩ := Program.runs_done.1 h
      exact ⟨[], .inr ⟨rfl, rfl, rfl⟩⟩
    · rintro ⟨ds, ⟨i, older, bus, hl, -⟩ | ⟨hl, rfl, rfl⟩⟩
      · exact absurd hl.symm (List.append_ne_nil_of_right_ne_nil _ (List.cons_ne_nil _ _))
      · obtain rfl := List.map_eq_nil_iff.1 hl.symm
        exact ⟨[], rfl, .done _⟩
  | cons j l ih =>
    rw [probe, Program.runs_ask]
    constructor
    · rintro ⟨reply, u, rfl, h⟩
      cases reply with
      | ok bus =>
        obtain ⟨v, rfl, hv⟩ := Program.runs_report.1 h
        obtain ⟨rfl, rfl⟩ := Program.runs_done.1 hv
        exact ⟨[], .inl ⟨j, l, bus, rfl, rfl, rfl⟩⟩
      | error e' =>
        obtain ⟨v, rfl, hv⟩ := Program.runs_report.1 h
        obtain ⟨ds, ⟨i, older, bus, rfl, hr, rfl⟩ | ⟨rfl, hr, rfl⟩⟩ := ih.1 hv
        · exact ⟨(j, e') :: ds, .inl ⟨i, older, bus, rfl, hr, rfl⟩⟩
        · exact ⟨(j, e') :: ds, .inr ⟨rfl, hr, rfl⟩⟩
    · rintro ⟨ds, h⟩
      cases ds with
      | nil =>
        obtain ⟨i, older, bus, hl, rfl, rfl⟩ | ⟨hl, -⟩ := h
        · obtain ⟨rfl, rfl⟩ := List.cons.inj hl
          exact ⟨.ok bus, _, rfl, .report (.done _)⟩
        · exact absurd hl (List.cons_ne_nil _ _)
      | cons d ds =>
        obtain ⟨i, older, bus, hl, hr, rfl⟩ | ⟨hl, hr, rfl⟩ := h
        · obtain ⟨rfl, hrest⟩ := List.cons.inj hl
          exact ⟨.error d.2, _, rfl, .report (ih.2 ⟨ds, .inl ⟨i, older, bus, hrest, hr, rfl⟩⟩)⟩
        · obtain ⟨rfl, hrest⟩ := List.cons.inj hl
          exact ⟨.error d.2, _, rfl, .report (ih.2 ⟨ds, .inr ⟨hrest, hr, rfl⟩⟩)⟩

/-- There is one backend at most that a request is for. -/
theorem eq_of_isFirst_meant {name : ι → String} {r : Registry ι} {wanted : String} {i j : ι}
    (hi : IsFirst (fun j ↦ Meant (name j) wanted) r.entries i)
    (hj : IsFirst (fun j ↦ Meant (name j) wanted) r.entries j) : i = j := by
  rw [← find?_eq_some_iff] at hi hj
  exact Option.some.inj (hi.symm.trans hj)

/-- **Making a bus** goes in one of these ways. -/
theorem runs_createBus_iff {name : ι → String} {r : Registry ι} {c : Connect} :
    (r.createBus name c).Runs t result ↔
      Course name r.entries (r.requested c) t result := by
  rw [createBus]
  cases r.requested c with
  | none =>
    refine runs_probe_iff.trans ⟨?_, fun h ↦ ?_⟩
    · rintro ⟨ds, ⟨i, older, bus, hl, rfl, rfl⟩ | ⟨hl, rfl, rfl⟩⟩
      · exact .probed bus hl
      · exact .exhausted hl
    · cases h with
      | probed bus hl => exact ⟨_, .inl ⟨_, _, bus, hl, rfl, rfl⟩⟩
      | exhausted hl => exact ⟨_, .inr ⟨hl, rfl, rfl⟩⟩
  | some wanted =>
    dsimp only [createNamed]
    cases hf : r.find? name wanted with
    | none =>
      have hnone := (r.find?_eq_none_iff name).1 hf
      constructor
      · intro h
        obtain ⟨u, rfl, hu⟩ := Program.runs_report.1 h
        obtain ⟨rfl, rfl⟩ := Program.runs_done.1 hu
        exact .unmatched hnone
      · rintro (h | ⟨_, h⟩ | ⟨_, h⟩)
        · exact .report (.done _)
        · exact absurd h.holds (hnone _ h.mem)
        · exact absurd h.holds (hnone _ h.mem)
    | some i =>
      have hfirst := (r.find?_eq_some_iff name).1 hf
      constructor
      · intro h
        obtain ⟨u, rfl, hu⟩ := Program.runs_report.1 h
        obtain ⟨reply, v, rfl, hv⟩ := Program.runs_ask.1 hu
        cases reply with
        | ok bus =>
          obtain ⟨rfl, rfl⟩ := Program.runs_done.1 hv
          exact .selected bus hfirst
        | error e =>
          obtain ⟨w, rfl, hw⟩ := Program.runs_report.1 hv
          obtain ⟨rfl, rfl⟩ := Program.runs_done.1 hw
          exact .failed e hfirst
      · rintro (h | ⟨bus, h⟩ | ⟨e, h⟩)
        · exact absurd hfirst.holds (h i hfirst.mem)
        · obtain rfl := eq_of_isFirst_meant hfirst h
          exact .report (.ask (.done _))
        · obtain rfl := eq_of_isFirst_meant hfirst h
          exact .report (.ask (.report (.done _)))

/-! ## What is reported -/

/-- The events of a level in a run. -/
def eventsAt {S : Interface} (level : Level) (t : Trace S) : List Event :=
  (events t).filter fun e ↦ e.level = level

theorem eventsAt_append {S : Interface} (level : Level) (t u : Trace S) :
    eventsAt level (t ++ u) = eventsAt level t ++ eventsAt level u := by
  rw [eventsAt, Program.events_append, List.filter_append]
  rfl

/-- Nobody is warned while backends decline. -/
theorem eventsAt_warn_refused (ds : List (ι × Error)) :
    eventsAt .warn (ds.flatMap refused : Trace (creation ι β)) = [] := by
  induction ds with
  | nil => rfl
  | cons d ds ih =>
    rw [List.flatMap_cons, eventsAt_append, ih]
    rfl

/-- Whether something is requested that means nobody. -/
def Unmatched (name : ι → String) (entries : List ι) (requested : Option String) : Prop :=
  ∃ wanted, requested = some wanted ∧ ∀ j ∈ entries, ¬ Meant (name j) wanted

theorem not_unmatched_of_isFirst {name : ι → String} {entries : List ι} {wanted : String} {i : ι}
    (h : IsFirst (fun j ↦ Meant (name j) wanted) entries i) :
    ¬ Unmatched name entries (some wanted) := by
  rintro ⟨w, hw, hnone⟩
  obtain rfl := Option.some.inj hw
  exact hnone i h.mem h.holds

/-- What a registry warns of: nothing if there is a bus, and otherwise one thing. -/
def Warns (name : ι → String) (entries : List ι) (requested : Option String)
    (t : Trace (creation ι β)) : Except Error β → Prop
  | .ok _ => eventsAt .warn t = [] ∧ ¬ Unmatched name entries requested
  | .error _ =>
    eventsAt .warn t = [.warn "no backend matches"] ∧ Unmatched name entries requested ∨
    eventsAt .warn t = [.warn "can't create instance"] ∧ ¬ Unmatched name entries requested

/-- **There is one warning if there is no bus**, and none if there is one. -/
theorem Course.warns {name : ι → String} {entries : List ι} {requested : Option String}
    (h : Course name entries requested t result) : Warns name entries requested t result := by
  have hnobody : ¬ Unmatched name entries none := fun ⟨_, h, _⟩ ↦ absurd h nofun
  cases h with
  | @unmatched wanted h => exact .inl ⟨rfl, wanted, rfl, h⟩
  | selected bus h => exact ⟨rfl, not_unmatched_of_isFirst h⟩
  | failed e h => exact .inr ⟨rfl, not_unmatched_of_isFirst h⟩
  | @probed ds i older bus h =>
    refine ⟨?_, hnobody⟩
    rw [eventsAt_append, eventsAt_warn_refused]
    rfl
  | exhausted h =>
    refine .inr ⟨?_, hnobody⟩
    rw [eventsAt_append, eventsAt_warn_refused]
    rfl

/-- What is reported of a registration, and what it leaves. -/
def Registers {S : Interface} (i : ι) (r : Registry ι) (t : Trace S) (r' : Registry ι) :
    Except Error Unit → Prop
  | .ok _ => t = [.reported (.debug "backend registered")] ∧
      r' = { r with entries := i :: r.entries }
  | .error _ => r' = r ∧ ∃ message, t = [.reported (.error message)]

/-- **A registration is reported once**, as an error if it is refused. -/
theorem registers_of_register [DecidableEq ι] {S : Interface} {name : ι → String}
    {r r' : Registry ι} {i : ι} {t : Trace S} {res : Except Error Unit}
    (h : (register name i r).Runs t (res, r')) : Registers i r t r' res := by
  rw [register_run] at h
  split at h
  case isTrue =>
    obtain ⟨u, rfl, hu⟩ := Program.runs_report.1 h
    obtain ⟨rfl, hres⟩ := Program.runs_done.1 hu
    obtain ⟨rfl, rfl⟩ := Prod.mk.inj hres
    exact ⟨rfl, rfl⟩
  case isFalse =>
    obtain ⟨u, rfl, hu⟩ := Program.runs_report.1 h
    obtain ⟨rfl, hres⟩ := Program.runs_done.1 hu
    obtain ⟨rfl, rfl⟩ := Prod.mk.inj hres
    refine ⟨rfl, ?_⟩
    rw [refusal]
    split
    case isTrue => exact ⟨_, rfl⟩
    case isFalse => exact ⟨_, rfl⟩

end Registry

/-- **What a registry says tells what came of it.**  Whatever the backends do to make a bus, what the
registry itself reports is the run `t`, into which their runs are woven.  It has one warning if there
is no bus, which tells whether the request means nobody, and none if there is one.  A backend that a
request means is announced before it is asked.  Without a request everybody who declines is remarked
on, in order, and then whoever accepts.  A registration is reported once. -/
theorem Registry.diagnostics {ι β : Type} [DecidableEq ι] {S : Interface} (name : ι → String)
    (r : Registry ι) :
    (∀ (c : Connect) (make : ι → Program S (Except Error β)) u result,
      ((r.createBus name c).interpret make).Runs u result →
      ∃ t, (r.createBus name c).Runs t result ∧ Woven make t u ∧
        Warns name r.entries (r.requested c) t result ∧
        (Unmatched name r.entries (r.requested c) → t = [.reported (.warn "no backend matches")]) ∧
        (∀ wanted i, r.requested c = some wanted →
          IsFirst (fun j ↦ Meant (name j) wanted) r.entries i →
          ∃ after, t = .reported (.debug "explicit selection") :: .asked i result :: after ∧
            eventsAt .debug after = []) ∧
        (r.requested c = none → ∃ (ds : List (ι × Error)) (last : Trace (creation ι β)),
          t = ds.flatMap refused ++ last ∧
          match result with
          | .ok bus => ∃ i older, r.entries = ds.map Prod.fst ++ i :: older ∧
              last = [.asked i (.ok bus), .reported (.debug "probed")]
          | .error _ => r.entries = ds.map Prod.fst ∧
              last = [.reported (.warn "can't create instance")])) ∧
    ∀ i (t : Trace S) res r', (register name i r).Runs t (res, r') → Registers i r t r' res := by
  refine ⟨fun c make u result h ↦ ?_, fun i t res r' h ↦ registers_of_register h⟩
  obtain ⟨t, ht, hw⟩ := Program.runs_interpret.1 h
  have hc := runs_createBus_iff.1 ht
  refine ⟨t, ht, hw, hc.warns, ?_, ?_, ?_⟩
  · rintro ⟨wanted, hr, hnone⟩
    rw [hr] at hc
    cases hc with
    | unmatched => rfl
    | selected bus hj => exact absurd hj.holds (hnone _ hj.mem)
    | failed e hj => exact absurd hj.holds (hnone _ hj.mem)
  · intro wanted i hr hi
    rw [hr] at hc
    cases hc with
    | unmatched hnone => exact absurd hi.holds (hnone i hi.mem)
    | selected bus hj =>
      obtain rfl := eq_of_isFirst_meant hi hj
      exact ⟨[], rfl, rfl⟩
    | failed e hj =>
      obtain rfl := eq_of_isFirst_meant hi hj
      exact ⟨_, rfl, rfl⟩
  · intro hr
    rw [hr] at hc
    cases hc with
    | @probed ds i older bus he => exact ⟨ds, _, rfl, i, older, he, rfl⟩
    | @exhausted ds he => exact ⟨ds, _, rfl, he, rfl⟩

/-- The warning of a backend that declines is not one of the registry. -/
theorem Registry.diagnostics_of_two :
    let name : Bool → String := fun b ↦ if b then "usb" else "local"
    let r : Registry Bool := { entries := [true, false] }
    let make : Bool → Program Program.silence (Except Error Unit) := fun b ↦
      if b then .report (.warn "no adapter") (.done (.error .noDevice)) else .done (.ok ())
    let u : Trace Program.silence := [.reported (.warn "no adapter"),
      .reported (.debug "backend declined"), .reported (.debug "probed")]
    ((r.createBus name {}).interpret make).Runs u (.ok ()) ∧
      eventsAt .warn u = [.warn "no adapter"] ∧
      ∃ t : Trace (creation Bool Unit), Woven make t u ∧ eventsAt .warn t = [] := by
  intro name r make u
  have h : ((r.createBus name {}).interpret make).Runs u (.ok ()) :=
    .report (.report (.report (.done _)))
  obtain ⟨t, -, hw, hwarns, -⟩ := (Registry.diagnostics name r).1 {} make u _ h
  exact ⟨h, rfl, t, hw, hwarns.1⟩

end BusAccess
