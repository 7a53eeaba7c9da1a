import BusAccess.Adapter.Identity
import BusAccess.Daemon.Location
import BusAccess.Node.Location
import BusAccess.Proofs.Registry.Dispatch
import BusAccess.Proofs.Uri.Path

/-!
# Connection strings and where they lead

Two pieces of code read a connection string.  The registry reads as much of it as it needs to pick
a backend, and the backend that is picked reads all of it.  Each of the three backends has a grammar
of its own (`Transport.Accepts`), but in all three a string is the name of the backend, and then
nothing, or a colon, or a slash (`toList_of_accepts`).

The registry goes by the colon.  So it finds the backend for a string with `://` in it and for the
bare name, and it does not for a string in which the name is followed by a path, such as
`pigpiod/1`: there the text in front of the colon, or the whole of it, is not the name of the
backend.  Such a string leads to no backend at all, unless somebody has registered one by the name
of `pigpiod/1`.  A backend whose grammar demands `://` has no such strings.
-/

set_option autoImplicit false

namespace BusAccess

open Program (requests)
open Uri (Scan Cursor)

/-! ## What the backends accept -/

/-- A backend that reads connection strings. -/
inductive Transport where
  | node
  | daemon
  | adapter
  deriving DecidableEq, Repr

namespace Transport

/-- The name under which it is registered. -/
def name : Transport → String
  | node => Node.name
  | daemon => Daemon.name
  | adapter => Adapter.name

/-- Whether it accepts a connection string. -/
def Accepts (u : String) : Transport → Prop
  | node => ∃ busnum, Node.parse (some u) = .ok busnum
  | daemon => ∃ location, Daemon.Location.parse u = .ok location
  | adapter => ∃ identity, Adapter.Identity.parse u = .ok identity

/-- Whether in a connection string the path comes right after the name. -/
def IsBarePath (u : String) (b : Transport) : Prop := ∃ path, u = b.name ++ "/" ++ path

theorem name_ne_empty (b : Transport) : b.name ≠ "" := by cases b <;> decide

end Transport

section Shape

variable {ε α : Type} {fault fault' : ε} {passed cs : List Char} {r : α × Cursor}

/-- The path of a connection string is empty or starts with a slash. -/
theorem path_eq_nil_or_slash {k : Option UInt32 → α}
    (h : (Scan.busNumberPath fault >>= fun b ↦ Scan.finish fault' >>= fun _ ↦ pure (k b))
      ⟨passed, some cs⟩ = .ok r) : cs = [] ∨ cs.head? = some '/' := by
  obtain ⟨n, hn, _⟩ := Scan.path_eq_ok.1 h
  cases hn with
  | omitted => exact .inl rfl
  | slash => exact .inr rfl
  | number => exact .inr rfl

/-- What follows the name is nothing, a colon or a slash, where `://` is not demanded. -/
theorem authority_or_path {k : Option UInt32 → α} {f : Bool → Scan ε α}
    (hf : f false =
      (Scan.busNumberPath fault >>= fun b ↦ Scan.finish fault' >>= fun _ ↦ pure (k b)))
    (h : (Scan.literal "://" >>= f) ⟨passed, some cs⟩ = .ok r) :
    cs = [] ∨ cs.head? = some ':' ∨ cs.head? = some '/' := by
  obtain ⟨ok, c, hl, h⟩ := Scan.bind_eq_ok.1 h
  rcases Scan.literal_cases (by decide) hl with ⟨ds, rfl, _⟩ | ⟨_, hc⟩
  · exact .inr (.inl rfl)
  · obtain ⟨rfl, rfl⟩ := Prod.mk.inj hc
    rw [hf] at h
    rcases path_eq_nil_or_slash h with hn | hs
    · exact .inl hn
    · exact .inr (.inr hs)

end Shape

namespace Transport

/-- The adapter demands `://`. -/
theorem toList_of_accepts_adapter {u : String} (h : adapter.Accepts u) :
    ∃ ds, u.toList = adapter.name.toList ++ ':' :: ds := by
  obtain ⟨identity, h⟩ := h
  obtain ⟨c, h⟩ := Scan.parse_eq_ok.1 h
  obtain ⟨cs, hu, h⟩ := (Scan.demand_literal_eq_ok (by decide)).1 h
  obtain ⟨ds, rfl, _⟩ := (Scan.demand_literal_eq_ok (by decide)).1 h
  exact ⟨_, hu⟩

/-- **An accepted string** is the name of the backend, and then nothing, a colon or a slash. -/
theorem toList_of_accepts {b : Transport} {u : String} (h : b.Accepts u) :
    ∃ cs, u.toList = b.name.toList ++ cs ∧
      (cs = [] ∨ cs.head? = some ':' ∨ cs.head? = some '/') := by
  cases b with
  | node =>
    obtain ⟨busnum, h⟩ := h
    obtain ⟨c, h⟩ := Scan.parse_eq_ok.1 h
    obtain ⟨cs, hu, h⟩ := (Scan.demand_literal_eq_ok (by decide)).1 h
    exact ⟨cs, hu, authority_or_path rfl h⟩
  | daemon =>
    obtain ⟨location, h⟩ := h
    obtain ⟨c, h⟩ := Scan.parse_eq_ok.1 h
    obtain ⟨cs, hu, h⟩ := (Scan.demand_literal_eq_ok (by decide)).1 h
    exact ⟨cs, hu, authority_or_path rfl h⟩
  | adapter =>
    obtain ⟨ds, hu⟩ := toList_of_accepts_adapter h
    exact ⟨_, hu, .inr (.inl rfl)⟩

/-! ## Where they lead -/

theorem isBarePath_iff {b : Transport} {u : String} :
    b.IsBarePath u ↔ ∃ cs, u.toList = b.name.toList ++ cs ∧ cs.head? = some '/' := by
  constructor
  · rintro ⟨path, rfl⟩
    refine ⟨'/' :: path.toList, ?_, rfl⟩
    simp [String.toList_append]
  · rintro ⟨cs, hu, hc⟩
    obtain ⟨path, rfl⟩ := List.head?_eq_some_iff.1 hc
    refine ⟨String.ofList path, ?_⟩
    rw [← String.toList_inj, hu]
    simp [String.toList_append]

/-- A backend is not meant by the strings in which the path comes right after its name. -/
theorem not_meant_of_isBarePath {b : Transport} {u : String} (h : b.IsBarePath u) :
    ¬ Meant b.name u := by
  rw [meant_iff_toList]
  rintro ⟨_, cs, hu, hc⟩
  obtain ⟨ds, hu', hd⟩ := isBarePath_iff.1 h
  obtain rfl : cs = ds := List.append_cancel_left (hu.symm.trans hu')
  rcases hc with rfl | hc
  · exact nomatch hd
  · exact absurd (hc.symm.trans hd) (by decide)

/-- A backend is meant by all other strings that it accepts. -/
theorem meant_of_accepts {b : Transport} {u : String} (h : b.Accepts u) (hp : ¬ b.IsBarePath u) :
    Meant b.name u := by
  obtain ⟨cs, hu, hc⟩ := toList_of_accepts h
  refine (meant_iff_toList _ _).2 ⟨b.name_ne_empty, cs, hu, ?_⟩
  rcases hc with hn | hc | hs
  · exact .inl hn
  · exact .inr hc
  · exact absurd (isBarePath_iff.2 ⟨cs, hu, hs⟩) hp

/-- No string for the adapter has the path right after the name. -/
theorem not_isBarePath_adapter {u : String} (h : adapter.Accepts u) : ¬ adapter.IsBarePath u := by
  obtain ⟨ds, hu⟩ := toList_of_accepts_adapter h
  rw [isBarePath_iff]
  rintro ⟨cs, hu', hc⟩
  obtain rfl : ':' :: ds = cs := List.append_cancel_left (hu.symm.trans hu')
  rw [List.head?_cons] at hc
  exact absurd hc (by decide)

end Transport

/-- **Where an accepted string leads.**  Let the registered names be free of colons, and let `i` be
the backend of a transport's name, the first if there are several.  A connection string that the
transport accepts leads to `i` and nobody else, unless the path comes right after the name.  Then it
never leads to `i`, and if no other backend is called by what stands in front of the first colon, it
is refused. -/
theorem routing_of_accepts {ι β : Type} (name : ι → String) (outcome : ι → Except Error β)
    (r : Registry ι) {b : Transport} {u : String} {i : ι} (hu : b.Accepts u)
    (hi : IsFirst (fun j ↦ name j = b.name) r.entries i)
    (hc : ∀ j ∈ r.entries, ':' ∉ (name j).toList) :
    let run := (r.createBus name { uri := some u }).under outcome
    (¬ b.IsBarePath u → requests run.1 = [i] ∧ run.2 = outcome i) ∧
      (b.IsBarePath u → i ∉ requests run.1 ∧
        ((∀ j ∈ r.entries, name j ≠ scheme u) →
          requests run.1 = [] ∧ run.2 = .error .invalidName)) ∧
      (b = .adapter → ¬ b.IsBarePath u) := by
  intro run
  refine ⟨?_, ?_, ?_⟩
  · intro hp
    have h : Registry.Dispatch name outcome r.entries (some u) [i] (outcome i) :=
      .named (hi.meant hc (b.meant_of_accepts hu hp))
    obtain ⟨hq, hr⟩ := h.run_eq (c := { uri := some u })
    exact ⟨hq.symm, hr.symm⟩
  · intro hp
    obtain ⟨invoked, result, h⟩ := Registry.exists_dispatch name outcome r.entries (some u)
    obtain ⟨hq, hr⟩ := h.run_eq (c := { uri := some u })
    rw [← hq, ← hr]
    cases h with
    | @named _ k hk =>
      constructor
      · rw [List.mem_singleton]
        rintro rfl
        have hbu : Meant (name i) u := hk.holds
        rw [show name i = b.name from hi.holds] at hbu
        exact Transport.not_meant_of_isBarePath hp hbu
      · intro hs
        have hk' := (meant_iff_scheme (hc k hk.mem) u).1 hk.holds
        exact absurd hk'.2 (hs k hk.mem)
    | unknown hk => exact ⟨List.not_mem_nil, fun _ ↦ ⟨rfl, rfl⟩⟩
  · rintro rfl
    exact Transport.not_isBarePath_adapter hu

/-- The daemon next to the device nodes, asked for bus 1 in two ways. -/
theorem routing_of_daemon_strings :
    let name : Transport → String := Transport.name
    let outcome : Transport → Except Error Transport := .ok
    let r : Registry Transport := { entries := [.node, .daemon] }
    let run := fun u ↦ (r.createBus name { uri := some u }).under outcome
    Transport.daemon.Accepts "pigpiod:///1" ∧ requests (run "pigpiod:///1").1 = [.daemon] ∧
      Transport.daemon.Accepts "pigpiod/1" ∧ (run "pigpiod/1").2 = .error .invalidName := by
  intro name outcome r run
  have h₁ : Transport.daemon.Accepts "pigpiod:///1" := ⟨{ busnum := some 1 }, by rfl⟩
  have h₂ : Transport.daemon.Accepts "pigpiod/1" := ⟨{ busnum := some 1 }, by rfl⟩
  have hi : IsFirst (fun j ↦ name j = Transport.daemon.name) r.entries .daemon :=
    ⟨[.node], [], rfl, rfl, by decide⟩
  have hc : ∀ j ∈ r.entries, ':' ∉ (name j).toList := by decide
  have hm : Meant Transport.daemon.name "pigpiod:///1" := (selects_iff _ _).1 (by decide)
  refine ⟨h₁, ?_, h₂, ?_⟩
  · refine ((routing_of_accepts name outcome r h₁ hi hc).1 fun hp ↦ ?_).1
    exact Transport.not_meant_of_isBarePath hp hm
  · exact (((routing_of_accepts name outcome r h₂ hi hc).2.1 ⟨"1", by rfl⟩).2 (by decide)).2

/-- The daemon's own strings do not all lead to it. -/
theorem daemon_path_unreachable :
    Daemon.Location.parse "pigpiod/1" = .ok { busnum := some 1 } ∧
      (({ entries := [()] } : Registry Unit).createBus (fun _ ↦ Daemon.name)
        { uri := some "pigpiod/1" }).under (fun _ ↦ (.ok () : Except Error Unit)) =
        ([.reported (.warn "no backend matches")], .error .invalidName) := by
  exact ⟨by rfl, by rfl⟩

end BusAccess
