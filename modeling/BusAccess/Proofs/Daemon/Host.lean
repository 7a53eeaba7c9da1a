import BusAccess.Proofs.Daemon.Creation
import BusAccess.Proofs.Uri.Meaning

/-!
# What becomes of a long host

The host of a connection string goes through a buffer, and a buffer drops what it has no room for
without a word.  So the scanner looks afterwards whether something is missing, and refuses the string
if there is.  But it compares two different things: the bytes that the buffer ended up with, and the
characters of the host.

This finds every loss in a host of characters of one byte, and in every host that has more characters
than the buffer has bytes.  In between there are hosts that are too long in bytes and not in
characters, and of such a host the scanner gives back the beginning only.  `host_kept_or_refused` says
what becomes of a host in each case, and `host_shortened` is a string where the buffer keeps all but
the last character.
-/

set_option autoImplicit false

namespace BusAccess.Daemon

open Program (Trace calls)
open Uri (Capture IsLongestPrefix Path Pattern Scan byteLength keep?)

/-! ## Buffers -/

/-- What a buffer ends up with, and what is made of it. -/
theorem exists_kept (capacity : Nat) (piece : List Char) :
    ∃ kept, IsLongestPrefix (fun cs ↦ byteLength cs ≤ capacity) kept piece ∧
      keep? capacity piece = if byteLength kept < piece.length then none else some kept := by
  obtain ⟨-, hkept⟩ := Capture.keeps_store ⟨some capacity, []⟩ piece
  have hroom : (⟨some capacity, []⟩ : Capture).HasRoom = fun cs ↦ byteLength cs ≤ capacity := by
    funext cs
    simp [Capture.HasRoom]
  rw [hroom] at hkept
  exact ⟨_, hkept, rfl⟩

namespace Location

variable {uri : String} {host : List Char}

/-! ## The host of a string -/

/-- Behind the scheme, a string has one host, which the scanner finds. -/
theorem hasHost_iff {cs : List Char} (hu : uri.toList = name.toList ++ "://".toList ++ cs) :
    HasHost uri host ↔ host = (Pattern.until ":/").matched cs := by
  constructor
  · rintro ⟨rest, hu', hfree, hnext⟩
    have hcs : cs = host ++ rest := by
      rw [hu, List.append_assoc _ host] at hu'
      exact List.append_cancel_left hu'
    rw [hcs]
    exact (matched_until_eq_iff.2 ⟨hfree, hnext⟩).symm
  · intro hhost
    obtain ⟨rest, hrest⟩ := (Pattern.until ":/").matched_isPrefix cs
    rw [← hhost] at hrest
    have hfound : (Pattern.until ":/").matched (host ++ rest) = host := by
      rw [hrest, hhost]
    obtain ⟨hfree, hnext⟩ := matched_until_eq_iff.1 hfound
    exact ⟨rest, by rw [hu, ← hrest, List.append_assoc _ host], hfree, hnext⟩

/-- Whatever parts a string has, its host is the host. -/
theorem eq_host_of_parts {host' authority path : List Char} {port : Option (List Char)}
    {n : Option UInt32} (hhost : ∀ cs, HasHost uri cs → cs = host)
    (hscheme : name.toList ++ "://".toList <+: uri.toList)
    (hu : uri.toList = name.toList ++ authority ++ path) (ha : Authority host' port authority)
    (hn : Path n path) : host' = host := by
  cases ha with
  | omitted =>
    obtain ⟨cs, hcs⟩ := hscheme
    rw [← hcs, List.append_nil, List.append_assoc] at hu
    have hpath : path = "://".toList ++ cs := (List.append_cancel_left hu).symm
    subst hpath
    exact absurd (hn.head? ':' rfl) (by decide)
  | located hfree hport => exact hhost host' (hasHost_of_located hu hfree hn)

/-! ## What becomes of it -/

/-- A host that the buffer has lost characters of is found to be too long. -/
theorem parse_of_lost (hhost : HasHost uri host) (hk : keep? hostCapacity host = none) :
    parse uri = .error .hostTooLong := by
  obtain ⟨rest, hu, hfree, hnext⟩ := hhost
  have hfound : (Pattern.until ":/").matched (host ++ rest) = host :=
    matched_until_eq_iff.2 ⟨hfree, hnext⟩
  have hauthority (passed : List Char) :
      authority ⟨passed, some (host ++ rest)⟩ = .error .hostTooLong := by
    rw [authority, Scan.bind_of_ok rfl]
    simp only [Uri.Cursor.matched_mk, hfound, hk]
    rfl
  rw [List.append_assoc, List.append_assoc] at hu
  rw [parse, Scan.parse, Uri.Cursor.ofString_eq, hu, grammar,
    Scan.bind_of_ok (Scan.literal_hit (by decide) _ _),
    Scan.bind_of_ok (Scan.demand_eq_ok.2 ⟨rfl, rfl⟩),
    Scan.bind_of_ok (Scan.literal_hit (by decide) _ _), if_pos rfl,
    Scan.bind_of_error (hauthority _)]
  rfl

/-- **A string that is not accepted makes no bus**, and the daemon is not asked. -/
theorem create_of_error {fault : Fault} {source : Source} {params : I2c.Params} {t : Trace interface}
    {r : Except Error (Bus Core)} (hu : params.uri = some uri) (hl : parse uri = .error fault)
    (h : (create source params).Runs t r) : r = .error .invalidUri ∧ calls t = [] := by
  have hnowhere : ∀ l, ¬ Says params l := by
    intro l hs
    rw [says_of_some hu, hl] at hs
    exact absurd hs nofun
  cases connecting_of_create h with
  | rejected _ _ ht => exact ⟨rfl, ht⟩
  | unreachable hs | outOfMemory hs | connected hs => exact absurd hs (hnowhere _)

/-- **What becomes of the host.**  The buffer keeps the longest part of it that has room, and this is
given back, unless it has fewer bytes than the host has characters: then the string is refused.  So a
host that has room is given back as it stands, and one with more characters than the buffer has bytes
is refused. -/
theorem host_kept_or_refused (uri : String) (hscheme : name.toList ++ "://".toList <+: uri.toList) :
    ∃ host kept : List Char,
      (∀ cs, HasHost uri cs ↔ cs = host) ∧
      IsLongestPrefix (fun cs ↦ byteLength cs ≤ hostCapacity) kept host ∧
      (∀ l, parse uri = .ok l → l.host = hostOf host kept) ∧
      (byteLength kept < host.length →
        parse uri = .error .hostTooLong ∧
        ∀ source params t r, params.uri = some uri → (create source params).Runs t r →
          r = .error .invalidUri ∧ calls t = []) ∧
      (byteLength host ≤ hostCapacity → kept = host) ∧
      (hostCapacity < host.length → byteLength kept < host.length) := by
  obtain ⟨cs, hcs⟩ := hscheme
  have hhost : ∀ host, HasHost uri host ↔ host = (Pattern.until ":/").matched cs :=
    fun _ ↦ hasHost_iff hcs.symm
  generalize (Pattern.until ":/").matched cs = host at hhost
  obtain ⟨kept, hlongest, hkeep⟩ := exists_kept hostCapacity host
  refine ⟨host, kept, hhost, hlongest, ?_, ?_, hlongest.eq_of_holds, ?_⟩
  · intro l hl
    obtain ⟨host', port, kept', authority, path, hu, ha, hn, hk, hl, -⟩ := parse_eq_ok_iff.1 hl
    have hhost' := eq_host_of_parts (fun cs ↦ (hhost cs).1) ⟨cs, hcs⟩ hu ha hn
    subst hhost'
    rw [hk] at hkeep
    split at hkeep
    case isTrue => exact absurd hkeep nofun
    case isFalse => rw [hl, Option.some.inj hkeep]
  · intro hlost
    rw [if_pos hlost] at hkeep
    have hparse := parse_of_lost ((hhost host).2 rfl) hkeep
    exact ⟨hparse, fun source params t r hu h ↦ create_of_error hu hparse h⟩
  · intro hlt
    have hle : byteLength kept ≤ hostCapacity := hlongest.holds
    omega

/-- A host that has room. -/
theorem host_kept_or_refused_local :
    Location.parse "pigpiod://raspberrypi.local:8888/0" =
        .ok ⟨some "raspberrypi.local", some "8888", some 0⟩ ∧
      ∃ host kept : List Char,
        (∀ cs, HasHost "pigpiod://raspberrypi.local:8888/0" cs ↔ cs = host) ∧
          hostOf host kept = some "raspberrypi.local" := by
  obtain ⟨host, kept, hhost, -, hok, -⟩ :=
    host_kept_or_refused "pigpiod://raspberrypi.local:8888/0" (by decide)
  have hparse : Location.parse "pigpiod://raspberrypi.local:8888/0" =
      .ok ⟨some "raspberrypi.local", some "8888", some 0⟩ := by rfl
  exact ⟨hparse, host, kept, hhost, (hok _ hparse).symm⟩

/-- Thirty-three characters of two bytes have no room, and the last one is lost without a fault. -/
theorem host_shortened :
    let host := List.replicate 33 'é'
    let uri := String.ofList ("pigpiod://".toList ++ host)
    let kept := List.replicate 32 'é'
    HasHost uri host ∧ hostCapacity < byteLength host ∧
      parse uri = .ok { host := some (String.ofList kept) } ∧
      some (String.ofList kept) ≠ hostOf host host := by
  intro host uri kept
  have hu : uri.toList = name.toList ++ ("://".toList ++ (host ++ portText none)) ++ [] := by
    rw [String.toList_ofList]
    rfl
  have hfree : IsHost host := by
    intro c hc
    rw [List.eq_of_mem_replicate hc]
    decide
  have hkeep : keep? hostCapacity host = some kept := by decide
  have hne : kept ≠ host := by decide
  refine ⟨hasHost_of_located hu hfree .omitted, by decide, parse_eq_ok_iff.2
    ⟨host, none, kept, _, [], hu, .located hfree nofun, .omitted, hkeep, rfl, rfl⟩, fun heq ↦ hne ?_⟩
  exact String.ofList_injective (Option.some.inj heq)

end Location

end BusAccess.Daemon
