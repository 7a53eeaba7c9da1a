import BusAccess.Daemon.Location
import BusAccess.Proofs.Uri.Capture
import BusAccess.Proofs.Uri.Path

/-!
# How a place on a daemon is spelled

A connection string for the daemon has three parts: the name of the backend, an authority, and a
path.  `Authority` says which texts are authorities, and what they say, as `Uri.Path` does for
paths; both can be left out.  The scanner does not look for the parts, it takes the longest piece
that it can get at each step.  It finds the parts all the same, because each of them ends where the
next one starts: no host has a colon or a slash in it, no port has a slash in it, and every path
starts with one (`parse_eq_ok_iff`).

What the scanner does not do is to give back the host as it stands.  It goes by what a buffer kept
of it, and takes this for the host if it has as many bytes as the host has characters.  So it gives
back the host itself as long as that fits into the buffer (`parse_eq_ok_iff_spelt`).
-/

set_option autoImplicit false

namespace BusAccess.Daemon

open Uri (Scan Cursor Pattern Path byteLength keep? keep?_eq_some_iff keep?_of_fits)

/-! ## Parts -/

/-- Whether a text is a host: it goes up to a colon or a slash. -/
def IsHost (host : List Char) : Prop := ∀ c ∈ host, c ≠ ':' ∧ c ≠ '/'

/-- Whether a text is a port: one to eight decimal digits. -/
structure IsPort (port : List Char) : Prop where
  /-- There is a digit. -/
  nonempty : port ≠ []
  /-- All digits are kept. -/
  length_le : port.length ≤ portCapacity
  /-- There is nothing else. -/
  digits : ∀ c ∈ port, c ∈ "0123456789".toList

/-- How a port is written behind a host. -/
def portText : Option (List Char) → List Char
  | none => []
  | some port => ':' :: port

/-- The texts that say where the daemon is, by a host and a port. -/
inductive Authority : List Char → Option (List Char) → List Char → Prop
  | omitted : Authority [] none []
  | located {host : List Char} {port : Option (List Char)} (h : IsHost host)
      (hp : ∀ p ∈ port, IsPort p) :
      Authority host port ("://".toList ++ (host ++ portText port))

section Parts

variable {host port cs : List Char}

theorem utf8Size_of_digits (h : ∀ c ∈ port, c ∈ "0123456789".toList) :
    ∀ c ∈ port, c.utf8Size = 1 := by
  have hdigits : ("0123456789".toList.all fun c ↦ c.utf8Size == 1) = true := by decide
  intro c hc
  exact beq_iff_eq.1 (List.all_eq_true.1 hdigits c (h c hc))

/-- The piece up to a colon or a slash is a host, and a colon or a slash comes next. -/
theorem matched_until_eq_iff :
    (Pattern.until ":/").matched (host ++ cs) = host ↔
      IsHost host ∧ ∀ c ∈ cs.head?, c = ':' ∨ c = '/' := by
  have hfree (c : Char) : (!":/".toList.contains c) = true ↔ c ≠ ':' ∧ c ≠ '/' := by
    rw [show ":/".toList = [':', '/'] from rfl]
    simp
  have hstop (c : Char) : (!":/".toList.contains c) = false ↔ c = ':' ∨ c = '/' := by
    rw [← Bool.not_eq_true, hfree, not_and_or, not_ne_iff, not_ne_iff]
  rw [Pattern.matched, Uri.takeWhile_append_eq_iff]
  simp only [hfree, hstop]
  exact Iff.rfl

/-- The piece of decimal digits is a port if it has one to eight of them, and a digit does not come
next. -/
theorem matched_digits_eq_iff :
    (Pattern.among "0123456789").matched (port ++ cs) = port ↔
      (∀ c ∈ port, c ∈ "0123456789".toList) ∧ ∀ c ∈ cs.head?, c ∉ "0123456789".toList := by
  rw [Pattern.matched, Uri.takeWhile_append_eq_iff]
  simp only [List.contains_eq_mem, decide_eq_true_eq, decide_eq_false_iff_not]

end Parts

/-! ## The scanner -/

namespace Location

/-- The host that the scanner gives back, by what the buffer kept of it. -/
def hostOf (host kept : List Char) : Option String :=
  if host.isEmpty then none else some (String.ofList kept)

section Place

variable {passed cs host kept rest : List Char} {port : Option (List Char)}

/-- What the scanner takes for an authority is a host and, if there is a colon behind it, a port. -/
theorem parts_of_authority {r : (Option String × Option String) × Cursor}
    (h : authority ⟨passed, some cs⟩ = .ok r) :
    ∃ host kept port rest, cs = host ++ portText port ++ rest ∧ IsHost host ∧
      (∀ p ∈ port, IsPort p) ∧ keep? hostCapacity host = some kept ∧
      r = ((hostOf host kept, port.map String.ofList),
        ⟨passed ++ host ++ portText port, some rest⟩) := by
  obtain ⟨rest, hcs, h₁⟩ := Scan.take_bind_eq_ok.1 h
  generalize hhost : (Pattern.until ":/").matched cs = host at hcs h₁
  obtain ⟨hfree, _⟩ := matched_until_eq_iff.1 (hcs ▸ hhost)
  cases hk : keep? hostCapacity host with
  | none =>
    rw [hk] at h₁
    exact absurd h₁ Scan.throw_ne_ok
  | some kept =>
    rw [hk] at h₁
    rcases (Scan.literal_bind_eq_ok (by decide)).1 h₁ with ⟨cs', rfl, h₂⟩ | ⟨_, h₂⟩
    · obtain ⟨ds, hds, h₃⟩ := Scan.take_bind_eq_ok.1 h₂
      generalize hport : (Pattern.among "0123456789").matched cs' = port at hds h₃
      obtain ⟨hdigits, _⟩ := matched_digits_eq_iff.1 (hds ▸ hport)
      cases hkp : keep? portCapacity port with
      | none =>
        rw [hkp] at h₃
        exact absurd h₃ Scan.throw_ne_ok
      | some keptPort =>
        rw [hkp] at h₃
        obtain ⟨_, c, hd, h₄⟩ := Scan.bind_eq_ok.1 h₃
        obtain ⟨hne, hc⟩ := Scan.demand_eq_ok.1 hd
        obtain ⟨-, rfl⟩ := Prod.mk.inj hc
        obtain rfl := Scan.pure_eq_ok.1 h₄
        obtain ⟨hle, rfl⟩ := (keep?_eq_some_iff (utf8Size_of_digits hdigits)).1 hkp
        have hp : IsPort keptPort := ⟨by simpa using hne, hle, hdigits⟩
        refine ⟨host, kept, some keptPort, ds, ?_, hfree, ?_, hk, ?_⟩
        · rw [hcs, hds, List.append_assoc]
          rfl
        · rintro _ ⟨⟩
          exact hp
        · rw [List.append_assoc (passed ++ host)]
          rfl
    · obtain rfl := Scan.pure_eq_ok.1 h₂
      refine ⟨host, kept, none, rest, ?_, hfree, nofun, hk, ?_⟩
      · rw [hcs, portText, List.append_nil]
      · rw [portText, List.append_nil]
        rfl

/-- The scanner takes a host and a port as long as a slash comes next, or nothing. -/
theorem authority_of_parts (hfree : IsHost host) (hport : ∀ p ∈ port, IsPort p)
    (hk : keep? hostCapacity host = some kept) (hslash : ∀ c ∈ rest.head?, c = '/') :
    authority ⟨passed, some (host ++ (portText port ++ rest))⟩ =
      .ok ((hostOf host kept, port.map String.ofList),
        ⟨passed ++ host ++ portText port, some rest⟩) := by
  have hnext : ∀ c ∈ (portText port ++ rest).head?, c = ':' ∨ c = '/' := by
    cases port with
    | none => exact fun c hc ↦ .inr (hslash c hc)
    | some p => exact fun c hc ↦ .inl (Option.some.inj hc).symm
  have hhost : (Pattern.until ":/").matched (host ++ (portText port ++ rest)) = host :=
    matched_until_eq_iff.2 ⟨hfree, hnext⟩
  refine Scan.take_bind_eq_ok.2 ⟨portText port ++ rest, by rw [hhost], ?_⟩
  rw [hhost, hk]
  cases port with
  | none =>
    refine (Scan.literal_bind_eq_ok (by decide)).2 (.inr ⟨?_, ?_⟩)
    · rintro ⟨ds, rfl⟩
      exact absurd (hslash ':' rfl) (by decide)
    · rw [portText, List.append_nil]
      rfl
  | some p =>
    have hp : IsPort p := hport p rfl
    have hend : ∀ c ∈ rest.head?, c ∉ "0123456789".toList := by
      intro c hc
      rw [hslash c hc]
      decide
    have hdigits : (Pattern.among "0123456789").matched (p ++ rest) = p :=
      matched_digits_eq_iff.2 ⟨hp.digits, hend⟩
    have hkp := (keep?_eq_some_iff (utf8Size_of_digits hp.digits)).2 ⟨hp.length_le, rfl⟩
    refine (Scan.literal_bind_eq_ok (by decide)).2 (.inl ⟨p ++ rest, rfl, ?_⟩)
    refine Scan.take_bind_eq_ok.2 ⟨rest, by rw [hdigits], ?_⟩
    rw [hdigits, hkp]
    refine Scan.bind_eq_ok.2 ⟨(), _, Scan.demand_eq_ok.2 ⟨by simpa using hp.nonempty, rfl⟩, ?_⟩
    rw [List.append_assoc (passed ++ host)]
    rfl

end Place

/-- **The scanner finds the parts of a connection string.**  It accepts the strings that are the name
of the backend, an authority and a path, if the buffer takes the host, and what it gives back is what
the parts say, up to what the buffer kept of the host. -/
theorem parse_eq_ok_iff {uri : String} {l : Location} :
    parse uri = .ok l ↔ ∃ host port kept authority path,
      uri.toList = name.toList ++ authority ++ path ∧ Authority host port authority ∧
        Path l.busnum path ∧ keep? hostCapacity host = some kept ∧ l.host = hostOf host kept ∧
        l.port = port.map String.ofList := by
  rw [parse, Scan.parse_eq_ok]
  constructor
  · rintro ⟨c, h⟩
    obtain ⟨cs, hu, h₁⟩ := (Scan.demand_literal_eq_ok (by decide)).1 h
    rcases (Scan.literal_bind_eq_ok (by decide)).1 h₁ with ⟨ds, rfl, h₂⟩ | ⟨_, h₂⟩
    · obtain ⟨_, c₁, ha, h₃⟩ := Scan.bind_eq_ok.1 h₂
      obtain ⟨host, kept, port, path, rfl, hfree, hp, hk, hr⟩ := parts_of_authority ha
      obtain ⟨rfl, rfl⟩ := Prod.mk.inj hr
      obtain ⟨n, hn, hl⟩ := Scan.path_eq_ok.1 h₃
      obtain ⟨rfl, -⟩ := Prod.mk.inj hl
      refine ⟨host, port, kept, _, path, ?_, .located hfree hp, hn, hk, rfl, rfl⟩
      rw [hu]
      simp only [List.append_assoc]
    · obtain ⟨n, hn, hl⟩ := Scan.path_eq_ok.1 h₂
      obtain ⟨rfl, -⟩ := Prod.mk.inj hl
      refine ⟨[], none, [], [], cs, ?_, .omitted, hn, keep?_of_fits (Nat.zero_le _), rfl, rfl⟩
      rw [hu, List.append_nil]
  · rintro ⟨host, port, kept, authority, path, hu, ha, hn, hk, hh, hp⟩
    obtain ⟨h?, p?, n⟩ := l
    obtain rfl : h? = _ := hh
    obtain rfl : p? = _ := hp
    rw [List.append_assoc] at hu
    refine ⟨⟨name.toList ++ authority ++ path, some []⟩, ?_⟩
    refine (Scan.demand_literal_eq_ok (by decide)).2 ⟨authority ++ path, hu, ?_⟩
    cases ha with
    | omitted =>
      obtain rfl : [] = kept := Option.some.inj ((keep?_of_fits (Nat.zero_le _)).symm.trans hk)
      refine (Scan.literal_bind_eq_ok (by decide)).2 (.inr ⟨?_, Scan.path_eq_ok.2 ⟨n, hn, ?_⟩⟩)
      · rintro ⟨ds, rfl⟩
        exact absurd (hn.head? ':' rfl) (by decide)
      · rw [List.append_nil]
        rfl
    | located hfree hport =>
      refine (Scan.literal_bind_eq_ok (by decide)).2
        (.inl ⟨host ++ (portText port ++ path), by simp only [List.append_assoc], ?_⟩)
      refine Scan.bind_eq_ok.2 ⟨_, _, authority_of_parts hfree hport hk hn.head?,
        Scan.path_eq_ok.2 ⟨n, hn, ?_⟩⟩
      simp only [List.append_assoc]
      rfl

/-! ## What a string says -/

/-- Whether a connection string says where a daemon is and which bus to take. -/
def Spelt (uri : String) (l : Location) : Prop :=
  ∃ host port authority path, uri.toList = name.toList ++ authority ++ path ∧
    Authority host port authority ∧ Path l.busnum path ∧ l.host = hostOf host host ∧
    l.port = port.map String.ofList

/-- Whether a connection string has a host: what stands behind `://` up to a colon, a slash or the
end. -/
def HasHost (uri : String) (host : List Char) : Prop :=
  ∃ rest, uri.toList = name.toList ++ "://".toList ++ host ++ rest ∧ IsHost host ∧
    ∀ c ∈ rest.head?, c = ':' ∨ c = '/'

theorem HasHost.byteLength_le {uri : String} {host : List Char} (h : HasHost uri host) :
    byteLength host ≤ byteLength uri.toList := by
  obtain ⟨rest, hu, _⟩ := h
  rw [hu, Uri.byteLength_append, Uri.byteLength_append]
  omega

/-- The host of an authority is the host of the string. -/
theorem hasHost_of_located {uri : String} {host path : List Char} {port : Option (List Char)}
    {n : Option UInt32}
    (hu : uri.toList = name.toList ++ ("://".toList ++ (host ++ portText port)) ++ path)
    (hfree : IsHost host) (hn : Path n path) : HasHost uri host := by
  refine ⟨portText port ++ path, by simp only [hu, List.append_assoc], hfree, ?_⟩
  cases port with
  | none => exact fun c hc ↦ .inr (hn.head? c hc)
  | some p => exact fun c hc ↦ .inl (Option.some.inj hc).symm

/-- The host of an authority is the host of the string, or there is none. -/
theorem hasHost_of_parts {uri : String} {host authority path : List Char} {port : Option (List Char)}
    {n : Option UInt32} (hu : uri.toList = name.toList ++ authority ++ path)
    (ha : Authority host port authority) (hn : Path n path) : host = [] ∨ HasHost uri host := by
  cases ha with
  | omitted => exact .inl rfl
  | located hfree _ => exact .inr (hasHost_of_located hu hfree hn)

/-- **A string with a host that fits is read as it stands.** -/
theorem parse_eq_ok_iff_spelt {uri : String} {l : Location}
    (hfits : ∀ host, HasHost uri host → byteLength host ≤ hostCapacity) :
    parse uri = .ok l ↔ Spelt uri l := by
  have hkeep {host authority path : List Char} {port : Option (List Char)} {n : Option UInt32}
      (hu : uri.toList = name.toList ++ authority ++ path) (ha : Authority host port authority)
      (hn : Path n path) : keep? hostCapacity host = some host := by
    rcases hasHost_of_parts hu ha hn with rfl | hh
    · exact keep?_of_fits (Nat.zero_le _)
    · exact keep?_of_fits (hfits host hh)
  rw [parse_eq_ok_iff]
  constructor
  · rintro ⟨host, port, kept, authority, path, hu, ha, hn, hk, hh, hp⟩
    obtain rfl : host = kept := Option.some.inj ((hkeep hu ha hn).symm.trans hk)
    exact ⟨host, port, authority, path, hu, ha, hn, hh, hp⟩
  · rintro ⟨host, port, authority, path, hu, ha, hn, hh, hp⟩
    exact ⟨host, port, host, authority, path, hu, ha, hn, hkeep hu ha hn, hh, hp⟩

end Location

end BusAccess.Daemon
