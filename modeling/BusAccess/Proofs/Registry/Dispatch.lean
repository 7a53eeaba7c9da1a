import BusAccess.Proofs.Registry.History
import BusAccess.Proofs.Registry.Selection

/-!
# Who is asked for a bus

A request that names something is answered by the first backend that it means, alone; if it means
none, nobody is asked.  A request that names nothing goes through the registry until somebody
accepts.  `Dispatch` is the rule in full: what is requested, who is asked, in this order, and what
comes of it.  It has five cases, for every registry, and never two at once.

`createBus` follows the rule, whatever the backends make of their requests (`dispatch_iff`).  The
part of it that takes an induction is the walk through the registry, which is cut in two at the
point that is reached: `probe_append` is about the backends that decline, and what is left is the
first one that does not, or nobody.  It keeps the events of the walk, one for each that declines.
-/

set_option autoImplicit false

namespace BusAccess

open Log (Event)
open Program (Step Trace requests)

namespace Registry

variable {ι β : Type}

/-- Who is asked for a bus, and what comes of it. -/
inductive Dispatch (name : ι → String) (outcome : ι → Except Error β) (entries : List ι) :
    Option String → List ι → Except Error β → Prop
  /-- A request is up to the first backend that it means. -/
  | named {wanted : String} {i : ι} (h : IsFirst (fun j ↦ Meant (name j) wanted) entries i) :
      Dispatch name outcome entries (some wanted) [i] (outcome i)
  /-- A request that means nobody is refused. -/
  | unknown {wanted : String} (h : ∀ j ∈ entries, ¬ Meant (name j) wanted) :
      Dispatch name outcome entries (some wanted) [] (.error .invalidName)
  /-- Without a request, backends are asked up to the first that accepts. -/
  | probed {newer older : List ι} {i : ι} {bus : β} (h : entries = newer ++ i :: older)
      (declined : ∀ j ∈ newer, ∃ e, outcome j = .error e) (accepts : outcome i = .ok bus) :
      Dispatch name outcome entries none (newer ++ [i]) (.ok bus)
  /-- If all decline, then the oldest tells why. -/
  | exhausted {newer : List ι} {i : ι} {e : Error} (h : entries = newer ++ [i])
      (declined : ∀ j ∈ newer, ∃ e, outcome j = .error e) (last : outcome i = .error e) :
      Dispatch name outcome entries none (newer ++ [i]) (.error e)
  | vacant (h : entries = []) : Dispatch name outcome entries none [] (.error .noDevice)

/-! ## The walk through a registry -/

section Walk

variable (outcome : ι → Except Error β)

/-- The events and requests of backends that decline. -/
def declining (l : List ι) : Trace (creation ι β) :=
  l.flatMap fun i ↦ [.asked i (outcome i), .reported (.debug "backend declined")]

/-- The refusal of the last of some backends, `e` if there are none. -/
def lastRefusal (e : Error) (l : List ι) : Error :=
  l.foldl (fun e i ↦ match outcome i with | .ok _ => e | .error e' => e') e

@[simp] theorem requests_declining (l : List ι) : requests (declining outcome l) = l := by
  induction l with
  | nil => rfl
  | cons i l ih =>
    rw [declining, List.flatMap_cons, ← declining, Program.requests_append, ih]
    rfl

variable {outcome}

/-- The last one to decline is the one whose refusal is kept. -/
theorem lastRefusal_concat {i : ι} {e : Error} (h : outcome i = .error e) (e₀ : Error)
    (l : List ι) : lastRefusal outcome e₀ (l ++ [i]) = e := by
  rw [lastRefusal, List.foldl_append, List.foldl_cons, List.foldl_nil, h]

/-- **Backends that decline** are asked one after another, and then the walk goes on. -/
theorem probe_append {newer : List ι} (h : ∀ j ∈ newer, ∃ e, outcome j = .error e)
    (rest : List ι) (e : Error) :
    (probe (newer ++ rest) e).under outcome =
      (declining outcome newer ++ ((probe rest (lastRefusal outcome e newer)).under outcome).1,
        ((probe rest (lastRefusal outcome e newer)).under outcome).2) := by
  induction newer generalizing e with
  | nil => rfl
  | cons j newer ih =>
    obtain ⟨e', hj⟩ := h j (List.mem_cons_self ..)
    have hl : lastRefusal outcome e (j :: newer) = lastRefusal outcome e' newer := by
      rw [lastRefusal, List.foldl_cons, hj, lastRefusal]
    have ih := ih (fun k hk ↦ h k (List.mem_cons_of_mem _ hk)) e'
    rw [hl, List.cons_append, probe, Program.under, declining, List.flatMap_cons, ← declining]
    simp only [hj, Program.under, ih, List.cons_append, List.nil_append]

/-- The walk ends at the first backend that accepts. -/
theorem probe_of_accepts {newer : List ι} (h : ∀ j ∈ newer, ∃ e, outcome j = .error e) {i : ι}
    {bus : β} (hi : outcome i = .ok bus) (older : List ι) (e : Error) :
    (probe (newer ++ i :: older) e).under outcome =
      (declining outcome newer ++ [.asked i (outcome i), .reported (.debug "probed")],
        .ok bus) := by
  rw [probe_append h, probe, Program.under]
  simp only [hi, Program.under]

/-- The walk ends with the oldest backend if none accepts. -/
theorem probe_of_declined {l : List ι} (h : ∀ j ∈ l, ∃ e, outcome j = .error e) (e : Error) :
    (probe l e).under outcome =
      (declining outcome l ++ [.reported (.warn "can't create instance")],
        .error (lastRefusal outcome e l)) := by
  have hl := probe_append h [] e
  rw [List.append_nil] at hl
  rw [hl, probe, Program.under, Program.under]

end Walk

/-! ## Surroundings that change their mind -/

section Asked

variable {t : Trace (creation ι β)} {result : Except Error β}

/-- The walk asks backends in order, each at most once. -/
theorem requests_of_probe {l : List ι} {e : Error} (h : (probe l e).Runs t result) :
    requests t <+: l := by
  induction l generalizing e t with
  | nil =>
    obtain ⟨u, rfl, hu⟩ := Program.runs_report.1 h
    obtain ⟨rfl, -⟩ := Program.runs_done.1 hu
    exact List.nil_prefix
  | cons i l ih =>
    obtain ⟨reply, u, rfl, hu⟩ := Program.runs_ask.1 h
    rw [Program.requests_asked, List.prefix_cons_inj]
    cases reply with
    | ok bus =>
      obtain ⟨v, rfl, hv⟩ := Program.runs_report.1 hu
      obtain ⟨rfl, -⟩ := Program.runs_done.1 hv
      exact List.nil_prefix
    | error e' =>
      obtain ⟨v, rfl, hv⟩ := Program.runs_report.1 hu
      rw [Program.requests_reported]
      exact ih hv

/-- **Whatever is answered**, those who are asked are in the registry, and asked in its order. -/
theorem requests_of_createBus {name : ι → String} {r : Registry ι} {c : Connect}
    (h : (r.createBus name c).Runs t result) : (requests t).Sublist r.entries := by
  rw [createBus] at h
  split at h
  case h_1 wanted _ =>
    rw [createNamed] at h
    split at h
    case h_1 =>
      obtain ⟨u, rfl, hu⟩ := Program.runs_report.1 h
      obtain ⟨rfl, -⟩ := Program.runs_done.1 hu
      exact List.nil_sublist _
    case h_2 i hi =>
      obtain ⟨u, rfl, hu⟩ := Program.runs_report.1 h
      obtain ⟨reply, v, rfl, hv⟩ := Program.runs_ask.1 hu
      have hnone : requests v = [] := by
        cases reply with
        | ok bus => rw [(Program.runs_done.1 hv).1, Program.requests_nil]
        | error e =>
          obtain ⟨w, rfl, hw⟩ := Program.runs_report.1 hv
          rw [Program.requests_reported, (Program.runs_done.1 hw).1, Program.requests_nil]
      rw [Program.requests_reported, Program.requests_asked, hnone, List.singleton_sublist]
      exact ((r.find?_eq_some_iff name).1 hi).mem
  case h_2 => exact (requests_of_probe h).sublist

end Asked

/-! ## The rule -/

variable {name : ι → String} {outcome : ι → Except Error β}

/-- The rule provides for everything. -/
theorem exists_dispatch (name : ι → String) (outcome : ι → Except Error β) (entries : List ι)
    (requested : Option String) :
    ∃ invoked result, Dispatch name outcome entries requested invoked result := by
  cases requested with
  | some wanted =>
    rcases forall_not_or_isFirst (fun j ↦ Meant (name j) wanted) entries with h | ⟨i, h⟩
    · exact ⟨_, _, .unknown h⟩
    · exact ⟨_, _, .named h⟩
  | none =>
    have declines {j : ι} (h : ¬ ∃ bus, outcome j = .ok bus) : ∃ e, outcome j = .error e := by
      cases hj : outcome j with
      | ok bus => exact absurd ⟨bus, hj⟩ h
      | error e => exact ⟨e, rfl⟩
    rcases forall_not_or_isFirst (fun j ↦ ∃ bus, outcome j = .ok bus) entries with
      h | ⟨i, newer, older, rfl, ⟨bus, hi⟩, h⟩
    · rcases List.eq_nil_or_concat entries with rfl | ⟨newer, i, rfl⟩
      · exact ⟨_, _, .vacant rfl⟩
      · rw [List.concat_eq_append] at h
        obtain ⟨e, hi⟩ := declines (h i (List.mem_append_right _ (List.mem_singleton_self i)))
        refine ⟨_, _, .exhausted List.concat_eq_append (fun j hj ↦ ?_) hi⟩
        exact declines (h j (List.mem_append_left _ hj))
    · exact ⟨_, _, .probed rfl (fun j hj ↦ declines (h j hj)) hi⟩

/-- Nobody is asked twice. -/
theorem Dispatch.nodup {entries : List ι} {requested : Option String} {invoked : List ι}
    {result : Except Error β} (h : Dispatch name outcome entries requested invoked result)
    (hn : entries.Nodup) : invoked.Nodup := by
  cases h with
  | named h => exact List.nodup_cons.2 ⟨List.not_mem_nil, List.nodup_nil⟩
  | unknown h => exact List.nodup_nil
  | @probed newer older i bus he declined accepts =>
    rw [he, List.append_cons] at hn
    exact hn.sublist (List.sublist_append_left _ _)
  | exhausted he declined last =>
    rw [he] at hn
    exact hn
  | vacant he => exact List.nodup_nil

/-- What the rule says is what happens. -/
theorem Dispatch.run_eq {r : Registry ι} {c : Connect} {invoked : List ι}
    {result : Except Error β}
    (h : Dispatch name outcome r.entries (r.requested c) invoked result) :
    invoked = requests ((r.createBus name c).under outcome).1 ∧
      result = ((r.createBus name c).under outcome).2 := by
  rw [createBus]
  generalize r.requested c = requested at h
  cases h with
  | @named wanted i h =>
    simp only [createNamed, (r.find?_eq_some_iff name).2 h]
    cases hi : outcome i with
    | ok bus => simp [Program.under, hi]
    | error e => simp [Program.under, hi]
  | unknown h =>
    simp only [createNamed, (r.find?_eq_none_iff name).2 h]
    exact ⟨rfl, rfl⟩
  | probed he declined accepts =>
    rw [he]
    dsimp only
    rw [probe_of_accepts declined accepts, Program.requests_append, requests_declining]
    exact ⟨rfl, rfl⟩
  | @exhausted newer i e he declined last =>
    have all : ∀ j ∈ r.entries, ∃ e, outcome j = .error e := by
      rw [he, List.forall_mem_append]
      exact ⟨declined, List.forall_mem_singleton.2 ⟨e, last⟩⟩
    dsimp only
    rw [probe_of_declined all, he, lastRefusal_concat last, Program.requests_append,
      requests_declining]
    exact ⟨(List.append_nil _).symm, rfl⟩
  | vacant he =>
    rw [he]
    exact ⟨rfl, rfl⟩

end Registry

/-- **Who is asked for a bus.**  After any history of a roster, the registry holds the accepted
registrations, the last one first and none twice.  Whatever is requested of it and whatever the
backends answer, a list of backends and a result are those of the rule exactly when these backends
are called on, in this order, with this result; and nobody is called on twice.  The registry is not
part of what comes out, so making a bus leaves it as it is. -/
theorem Roster.dispatch_iff {M β : Type} (history : List (Roster.Change M)) (c : Connect)
    (outcome : Nat → Except Error β) :
    let r := Roster.after history {}
    let run := (r.registry.createBus r.name c).under outcome
    r.registry.entries = (Roster.accepted history {}).reverse ∧ r.registry.entries.Nodup ∧
      (requests run.1).Nodup ∧ ∀ invoked result,
        Registry.Dispatch r.name outcome r.registry.entries
            (c.backend <|> c.uri <|> r.registry.preferred) invoked result ↔
          invoked = requests run.1 ∧ result = run.2 := by
  intro r run
  have hn : r.registry.entries.Nodup := nodup_after history List.nodup_nil
  obtain ⟨invoked, result, h⟩ :=
    Registry.exists_dispatch r.name outcome r.registry.entries (r.registry.requested c)
  obtain ⟨rfl, rfl⟩ := h.run_eq
  refine ⟨?_, hn, h.nodup hn, fun invoked' result' ↦ ⟨?_, ?_⟩⟩
  · rw [entries_after history {}]
    exact List.append_nil _
  · intro h'
    exact Registry.Dispatch.run_eq h'
  · rintro ⟨rfl, rfl⟩
    exact h

end BusAccess
