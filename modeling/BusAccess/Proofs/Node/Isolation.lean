import BusAccess.Proofs.Keepers

/-!
# Pins do not get into each other's files

All pins of a machine are files under one directory.  A pin has a directory of its own there, whose
name ends with the number of the pin, and beside these directories are the two control files that
all pins share.  The kernel's part in this is played by a `Tree`: what is written to a file is in
it, what is read was in it, and nobody else touches it.

A call replaces at most one file beside the control files (`attributeFile?`), and the paths of files
tell pins and attributes apart (`attribute_inj`).  So a file in the directory of a pin is only
changed by uses that are about this pin, and the value of a pin only by writing to it
(`content_of_uses`).  With the first byte of what is written for a level being the one that tells the
level when it is read (`ofBool_head?_level`), what was written last is what is read
(`pins_isolated`).  It makes no difference that the writes to the control files may fail, or those
to other pins, and neither does it that a pin is closed and opened again: that writes to the file
beside its value.
-/

set_option autoImplicit false

namespace BusAccess.Node.Gpio

open BusAccess.Gpio (PinMode PinValue)
open Program (Trace Step requests requests_append requests_calls calls)

/-! ## A tree of files -/

/-- What is in the files of a machine, by their paths. -/
abbrev Tree := String → Option Bytes

variable {tree tree' : Tree} {t u : Trace interface} {path : String}

/-- What a step makes of a tree that nobody else changes.  If a file could not be replaced, there
may be anything left of it. -/
inductive Tree.Becomes (tree : Tree) : Step interface → Tree → Prop
  | reported (e : Log.Event) : Becomes tree (.reported e) tree
  | replaced (path : String) (data : Bytes) :
    Becomes tree (.asked (.writeFile path data) true) (Function.update tree path (some data))
  | spoiled (path : String) (data : Bytes) (left : Option Bytes) :
    Becomes tree (.asked (.writeFile path data) false) (Function.update tree path left)
  | read {path : String} {content : Bytes} (h : tree path = some content) :
    Becomes tree (.asked (.readFile path) (some content)) tree
  | unread (path : String) : Becomes tree (.asked (.readFile path) none) tree
  | other {q : Request} {reply : q.Reply} (hread : ∀ path, q ≠ .readFile path)
    (hwrite : ∀ path data, q ≠ .writeFile path data) : Becomes tree (.asked q reply) tree

/-- What a run makes of a tree. -/
inductive Tree.Through : Tree → Trace interface → Tree → Prop
  | nil (tree : Tree) : Through tree [] tree
  | cons {tree tree₁ tree₂ : Tree} {step : Step interface} {t : Trace interface}
    (hstep : tree.Becomes step tree₁) (h : tree₁.Through t tree₂) : Through tree (step :: t) tree₂

namespace Tree

theorem through_append :
    tree.Through (t ++ u) tree' ↔ ∃ tree₁, tree.Through t tree₁ ∧ tree₁.Through u tree' := by
  induction t generalizing tree with
  | nil =>
    constructor
    · exact fun h ↦ ⟨tree, .nil tree, h⟩
    · rintro ⟨_, ⟨⟩, h⟩
      exact h
  | cons step t ih =>
    constructor
    · rintro (_ | ⟨hstep, h⟩)
      obtain ⟨tree₁, h₁, h₂⟩ := ih.1 h
      exact ⟨tree₁, .cons hstep h₁, h₂⟩
    · rintro ⟨tree₁, _ | ⟨hstep, h₁⟩, h₂⟩
      exact .cons hstep (ih.2 ⟨tree₁, h₁, h₂⟩)

/-- What is reported does nothing to files. -/
theorem Through.calls (h : tree.Through t tree') : tree.Through (calls t) tree' := by
  induction h with
  | nil tree => exact .nil tree
  | @cons _ _ _ step _ hstep _ ih =>
    cases step with
    | reported e =>
      cases hstep
      exact ih
    | asked q reply => exact .cons hstep ih

theorem through_singleton {step : Step interface} :
    tree.Through [step] tree' ↔ tree.Becomes step tree' := by
  constructor
  · rintro (_ | ⟨hstep, ⟨⟩⟩)
    exact hstep
  · exact fun hstep ↦ .cons hstep (.nil tree')

/-- What a file is replaced by is in it. -/
theorem Becomes.replaced_content {data : Bytes}
    (h : tree.Becomes (.asked (.writeFile path data) true) tree') : tree' path = some data := by
  cases h with
  | replaced => exact Function.update_self path _ tree
  | other _ hwrite => exact absurd rfl (hwrite path data)

/-- What is read from a file is in it. -/
theorem Becomes.read_content {content : Bytes}
    (h : tree.Becomes (.asked (.readFile path) (some content)) tree') :
    tree path = some content := by
  cases h with
  | read h => exact h
  | other hread _ => exact absurd rfl (hread path)

/-- A step that does not write to a file leaves it as it is. -/
theorem Becomes.content {step : Step interface} (h : tree.Becomes step tree')
    (hpath : ∀ data, .writeFile path data ∉ requests [step]) : tree' path = tree path := by
  cases h with
  | replaced p data | spoiled p data left =>
    have hne : path ≠ p := by
      rintro rfl
      exact hpath data (List.mem_singleton_self _)
    exact Function.update_of_ne hne _ _
  | _ => rfl

/-- **A file that is not written to stays as it is.** -/
theorem Through.content (h : tree.Through t tree')
    (hpath : ∀ data, .writeFile path data ∉ requests t) : tree' path = tree path := by
  induction h with
  | nil => rfl
  | @cons _ _ _ step t hstep _ ih =>
    have hsplit : requests (step :: t) = requests [step] ++ requests t := requests_append [step] t
    simp only [hsplit, List.mem_append, not_or] at hpath
    rw [ih fun data ↦ (hpath data).2, hstep.content fun data ↦ (hpath data).1]

end Tree

/-! ## Paths -/

variable {directory : String} {pin p : UInt32}

/-- **Files of pins** are told apart by the number of the pin and their own name. -/
theorem attribute_inj {file file' : String} :
    inDirectory (pinDirectory directory pin) file = inDirectory (pinDirectory directory p) file' ↔
      pin = p ∧ file = file' := by
  refine ⟨fun h ↦ ?_, fun ⟨hpin, hfile⟩ ↦ by rw [hpin, hfile]⟩
  rw [inDirectory, inDirectory, separator_pinDirectory, separator_pinDirectory] at h
  simp only [inDirectory, pinDirectory, String.append_assoc, String.append_right_inj] at h
  have hlist := congrArg String.toList h
  simp only [String.toList_append, Nat.toString_eq_repr, Nat.toList_repr] at hlist
  -- The number ends where there is a slash.
  obtain ⟨hn, hfile⟩ := (Uri.toDigits_append_inj (by decide)).1 hlist
  exact ⟨UInt32.toNat_inj.1 hn, String.toList_inj.1 hfile⟩

/-! ## What a call writes to -/

variable {s s' : Core} {b b' : Bus Core} {us : List (Use BusAccess.Gpio.methods)}
  {device : DeviceHandle}

/-- The pin that a call is about. -/
def pin? : BusAccess.Gpio.Call → Option UInt32
  | .openPin pin _ => some pin
  | .read device => device.unsigned?
  | .write device _ => device.unsigned?
  | .close device => device.unsigned?
  | .setDriveStrength device _ => device.unsigned?

/-- The file that a call replaces beside the control files. -/
def attributeFile? (directory : String) : BusAccess.Gpio.Call → Option String
  | .openPin pin _ => some (inDirectory (pinDirectory directory pin) "direction")
  | .write device _ =>
    device.unsigned?.map fun pin ↦ inDirectory (pinDirectory directory pin) "value"
  | _ => none

/-- The file is in the directory of the pin that the call is about. -/
theorem pin?_of_attributeFile? {c : BusAccess.Gpio.Call} {file : String}
    (h : attributeFile? directory c = some (inDirectory (pinDirectory directory pin) file)) :
    pin? c = some pin := by
  cases c with
  | openPin p mode =>
    obtain ⟨rfl, -⟩ := attribute_inj.1 (Option.some.inj h)
    rfl
  | write device value =>
    obtain ⟨p, hp, hfile⟩ := Option.map_eq_some_iff.1 h
    obtain ⟨rfl, -⟩ := attribute_inj.1 hfile
    exact hp
  | _ => exact absurd h nofun

/-- The value of a pin is the file of the calls that write to the pin. -/
theorem write_of_attributeFile? {c : BusAccess.Gpio.Call} (hd : device.unsigned? = some pin)
    (h : attributeFile? directory c = some (inDirectory (pinDirectory directory pin) "value")) :
    ∃ value, c = .write device value := by
  cases c with
  | openPin p mode => exact absurd (attribute_inj.1 (Option.some.inj h)).2 (by decide)
  | write device' value =>
    obtain ⟨p, hp, hfile⟩ := Option.map_eq_some_iff.1 h
    obtain ⟨rfl, -⟩ := attribute_inj.1 hfile
    have hsame : device' = device := Option.some.inj <|
      (DeviceHandle.ofUnsigned?_eq_some_iff.2 hp).symm.trans
        (DeviceHandle.ofUnsigned?_eq_some_iff.2 hd)
    exact ⟨value, by rw [hsame]⟩
  | _ => exact absurd h nofun

/-- **A call writes to control files and to the one attribute that it is for.** -/
theorem written_of_call {c : BusAccess.Gpio.Call} {r : Except Error c.Answer} {data : Bytes}
    (h : (table.call c s).Runs t (r, s')) (hq : .writeFile path data ∈ requests t) :
    (∃ w : Control, path = inDirectory s.directory w.file) ∨
      attributeFile? s.directory c = some path := by
  rw [← requests_calls] at hq
  cases c with
  | openPin pin mode =>
    rcases runs_openPin h with ⟨_, rfl, _⟩ | ⟨_, rfl, _⟩ | ⟨_, _, _, _, ht, _⟩ |
      ⟨_, _, _, _, _, ht, _⟩
    · exact absurd hq List.not_mem_nil
    · exact absurd hq List.not_mem_nil
    · simp only [ht, Control.step, attributeStep, Program.requests_asked, Program.requests_nil,
        List.mem_cons, Request.writeFile.injEq, List.not_mem_nil, or_false] at hq
      rcases hq with ⟨hpath, _⟩ | ⟨hpath, _⟩ | ⟨hpath, _⟩
      · exact .inl ⟨.claim, hpath⟩
      · exact .inr (congrArg some hpath.symm)
      · exact .inl ⟨.giveBack, hpath⟩
    · simp only [ht, Control.step, attributeStep, Program.requests_asked, Program.requests_nil,
        List.mem_cons, Request.writeFile.injEq, List.not_mem_nil, or_false] at hq
      rcases hq with ⟨hpath, _⟩ | ⟨hpath, _⟩
      · exact .inl ⟨.claim, hpath⟩
      · exact .inr (congrArg some hpath.symm)
  | read device =>
    rcases runs_read h with ⟨_, ⟨_, rfl, _⟩ | ⟨_, _, _, _, ht, _⟩⟩
    · exact absurd hq List.not_mem_nil
    · rw [ht] at hq
      cases List.mem_singleton.1 hq
  | write device value =>
    rcases runs_write h with ⟨_, ⟨_, rfl, _⟩ | ⟨pin, _, hd, ⟨_, rfl, _⟩ | ⟨_, ht, _⟩⟩⟩
    · exact absurd hq List.not_mem_nil
    · exact absurd hq List.not_mem_nil
    · rw [ht] at hq
      obtain ⟨rfl, _⟩ := Request.writeFile.inj (List.mem_singleton.1 hq)
      exact .inr (Option.map_eq_some_iff.2 ⟨pin, (unsigned?_of_named? hd).1, rfl⟩)
  | close device =>
    rcases runs_close h with ⟨_, rfl, _⟩ | ⟨_, _, _, _, ht, _⟩
    · exact absurd hq List.not_mem_nil
    · rw [ht] at hq
      obtain ⟨rfl, _⟩ := Request.writeFile.inj (List.mem_singleton.1 hq)
      exact .inl ⟨.giveBack, rfl⟩
  | setDriveStrength device drive =>
    obtain ⟨rfl, _⟩ := Action.runs_throw.1 h
    exact absurd hq List.not_mem_nil

theorem written_of_forM_giveBack {l : List (UInt32 × PinMode)} {r : Except Error PUnit}
    {data : Bytes} (h : ((l.forM fun q ↦ control "unexport" q.1) s).Runs t (r, s'))
    (hq : .writeFile path data ∈ requests t) :
    path = inDirectory s.directory Control.giveBack.file := by
  induction l generalizing t with
  | nil =>
    obtain ⟨rfl, _⟩ := Action.runs_pure.1 h
    exact absurd hq List.not_mem_nil
  | cons q l ih =>
    obtain ⟨granted, u, ht, h₁⟩ := runs_control_bind (w := .giveBack) h
    rw [← requests_calls, ht, Control.step, Program.requests_asked, requests_calls] at hq
    rcases List.mem_cons.1 hq with hq | hq
    · exact (Request.writeFile.inj hq).1
    · exact ih h₁ hq

/-- Disconnecting writes to a control file. -/
theorem written_of_release {r : Except Error Unit} {data : Bytes} (h : (release s).Runs t (r, s'))
    (hq : .writeFile path data ∈ requests t) :
    path = inDirectory s.directory Control.giveBack.file := by
  rw [release] at h
  have h₁ := Action.runs_get_bind.1 h
  have h₂ := Action.runs_set_bind.1 h₁
  obtain ⟨order, u, rfl, h₃⟩ := runs_walk_bind.1 h₂
  rcases List.mem_cons.1 hq with hq | hq
  · cases hq
  · exact written_of_forM_giveBack (s := { s with pins := [] }) h₃ hq

/-! ## What uses leave as it was -/

/-- **What one use writes to**, if the bus has a state that is sound or none at all. -/
theorem written_of_use {u : Use BusAccess.Gpio.methods}
    (hb : ∀ s, b.core = some s → Sound directory s)
    (h : (Bus.use (M := BusAccess.Gpio.methods) table u b).Runs t b') :
    (∀ s, b'.core = some s → Sound directory s) ∧
      ∀ path data, .writeFile path data ∈ requests t →
        (∃ w : Control, path = inDirectory directory w.file) ∨
          ∃ c, u = .method c ∧ attributeFile? directory c = some path := by
  cases hs : b.core with
  | none =>
    rw [Bus.use_gone table u hs] at h
    obtain ⟨rfl, rfl⟩ := Program.runs_done.1 h
    exact ⟨hb, fun path data hq ↦ absurd hq List.not_mem_nil⟩
  | some s =>
    have hsound := hb s hs
    obtain ⟨rfl, -⟩ := id hsound
    cases u with
    | method c =>
      obtain ⟨r, h₁⟩ := Bus.runs_use_method h
      obtain ⟨s', h₂, rfl⟩ := Bus.runs_call hs h₁
      refine ⟨fun s₁ hs₁ ↦ Option.some.inj hs₁ ▸ sound_of_call hsound h₂, fun path data hq ↦ ?_⟩
      exact (written_of_call h₂ hq).imp_right fun hc ↦ ⟨c, rfl, hc⟩
    | release =>
      obtain ⟨r, h₁⟩ := Bus.runs_use_release h
      obtain ⟨v, s', h₂, rfl, rfl⟩ := Bus.runs_release hs h₁
      refine ⟨nofun, fun path data hq ↦ .inl ⟨.giveBack, ?_⟩⟩
      rw [requests_append, Program.requests_reported, Program.requests_nil, List.append_nil] at hq
      exact written_of_release h₂ hq

/-- **A file that no use is for stays as it is**, unless it is a control file. -/
theorem content_of_uses (hb : ∀ s, b.core = some s → Sound directory s)
    (hcontrol : ∀ w : Control, path ≠ inDirectory directory w.file)
    (hus : ∀ c, .method c ∈ us → attributeFile? directory c ≠ some path)
    (h : (Bus.uses (M := BusAccess.Gpio.methods) table us b).Runs t b')
    (ht : tree.Through t tree') :
    (∀ s, b'.core = some s → Sound directory s) ∧ tree' path = tree path := by
  let P (past : Trace interface) (b : Bus Core) : Prop :=
    (∀ s, b.core = some s → Sound directory s) ∧ ∀ data, .writeFile path data ∉ requests past
  have hstep (u : Use BusAccess.Gpio.methods) (hu : u ∈ us) {past trace : Trace interface}
      {b b' : Bus Core} (hP : P past b) (h : (Bus.use table u b).Runs trace b') :
      P (past ++ trace) b' := by
    obtain ⟨hsound, hwritten⟩ := written_of_use hP.1 h
    refine ⟨hsound, fun data hq ↦ ?_⟩
    rw [requests_append] at hq
    rcases List.mem_append.1 hq with hq | hq
    · exact hP.2 data hq
    · rcases hwritten path data hq with ⟨w, hw⟩ | ⟨c, rfl, hc⟩
      · exact hcontrol w hw
      · exact hus c hu hc
  have hnew : P [] b := ⟨hb, fun data ↦ List.not_mem_nil⟩
  obtain ⟨hsound, hwritten⟩ := Bus.uses_induction (P := P) (fun u hu _ _ _ _ ↦ hstep u hu) [] hnew h
  exact ⟨hsound, ht.content hwritten⟩

/-! ## What is read is what was written -/

/-- A call that succeeds finds the bus with a state. -/
theorem core_of_ok {c : BusAccess.Gpio.Call} {answer : c.Answer}
    (h : (Bus.call table c b).Runs t (.ok answer, b')) : ∃ s, b.core = some s := by
  refine Option.ne_none_iff_exists'.1 fun hs ↦ ?_
  obtain ⟨-, hr, -⟩ := Bus.runs_call_gone hs h
  exact absurd hr nofun

/-- What is written for a level. -/
def level (value : PinValue) : String := if value.toBool then "1" else "0"

/-- The first byte of what is written for a level tells the level. -/
theorem ofBool_head?_level (value : PinValue) :
    PinValue.ofBool ((fileBytes (level value)).head? == some 0x31) = value := by
  rw [fileBytes, ByteArray.toList, toList_loop]
  cases value <;> rfl

/-- The file of a value that was written has the level in it. -/
theorem content_of_write {value : PinValue} (hs : b.core = some s)
    (h : (Bus.call table (.write device value) b).Runs t (.ok (), b'))
    (ht : tree.Through t tree') : ∃ pin, device.unsigned? = some pin ∧ b'.core = some s ∧
      tree' (inDirectory (pinDirectory s.directory pin) "value") =
        some (fileBytes (level value)) := by
  obtain ⟨s', h₁, rfl⟩ := Bus.runs_call hs h
  rcases runs_write h₁ with ⟨rfl, ⟨_, _, hr⟩ | ⟨pin, _, hd, ⟨_, _, hr⟩ | ⟨granted, hcalls, hr⟩⟩⟩
  · exact absurd hr nofun
  · exact absurd hr nofun
  · cases granted with
    | false => exact absurd hr nofun
    | true =>
      have ht₁ := ht.calls
      rw [hcalls, Tree.through_singleton] at ht₁
      exact ⟨pin, (unsigned?_of_named? hd).1, rfl, ht₁.replaced_content⟩

/-- A value that is read is what the first byte of the file says. -/
theorem value_of_read {value : PinValue} (hs : b.core = some s)
    (h : (Bus.call table (.read device) b).Runs t (.ok value, b')) (ht : tree.Through t tree') :
    ∃ pin content, device.unsigned? = some pin ∧
      tree (inDirectory (pinDirectory s.directory pin) "value") = some content ∧
      value = .ofBool (content.head? == some 0x31) := by
  obtain ⟨s', h₁, rfl⟩ := Bus.runs_call hs h
  rcases runs_read h₁ with ⟨rfl, ⟨_, _, hr⟩ | ⟨pin, _, reply, hd, hcalls, hr⟩⟩
  · exact absurd hr nofun
  · cases reply with
    | none => exact absurd hr nofun
    | some content =>
      have ht₁ := ht.calls
      rw [hcalls, Tree.through_singleton] at ht₁
      exact ⟨pin, content, (unsigned?_of_named? hd).1, ht₁.read_content, Except.ok.inj hr⟩

/-- **A value that was written is read** as long as it is not written again. -/
theorem value_of_last_write {value value' : PinValue} {written between asked : Trace interface}
    {b₁ b₂ b₃ : Bus Core} (hb : ∀ s, b.core = some s → Sound directory s)
    (hwrite : (Bus.call table (.write device value) b).Runs written (.ok (), b₁))
    (huses : (Bus.uses (M := BusAccess.Gpio.methods) table us b₁).Runs between b₂)
    (hus : ∀ other, .method (.write device other) ∉ us)
    (hread : (Bus.call table (.read device) b₂).Runs asked (.ok value', b₃))
    (ht : tree.Through (written ++ between ++ asked) tree') : value' = value := by
  obtain ⟨tree₂, ht₂, htread⟩ := Tree.through_append.1 ht
  obtain ⟨tree₁, htwrite, htuses⟩ := Tree.through_append.1 ht₂
  obtain ⟨s, hs⟩ := core_of_ok hwrite
  obtain ⟨pin, hpin, hs₁, hcontent⟩ := content_of_write hs hwrite htwrite
  obtain ⟨rfl, -⟩ := hb s hs
  have hb₁ (s' : Core) (hs' : b₁.core = some s') : Sound s.directory s' :=
    hb s' (hs.trans (hs₁.symm.trans hs'))
  -- Nothing but a write to the pin is for the file of its value.
  have hother (c : BusAccess.Gpio.Call) (hcall : .method c ∈ us) :
      attributeFile? s.directory c ≠ some (inDirectory (pinDirectory s.directory pin) "value") := by
    intro hfile
    obtain ⟨other, rfl⟩ := write_of_attributeFile? hpin hfile
    exact hus other hcall
  obtain ⟨hb₂, hkept⟩ := content_of_uses hb₁ (fun _ ↦ attribute_ne_control) hother huses htuses
  obtain ⟨s₂, hs₂⟩ := core_of_ok hread
  obtain ⟨pin', content, hpin', hfound, hvalue⟩ := value_of_read hs₂ hread htread
  obtain rfl := Option.some.inj (hpin.symm.trans hpin')
  rw [(hb₂ s₂ hs₂).1, hkept, hcontent] at hfound
  rw [hvalue, ← Option.some.inj hfound, ofBool_head?_level]

/-! ## Pins that are only read -/

/-- A pin that was opened goes by its handle. -/
theorem named?_of_openPin {mode : PinMode}
    (h : (openPin pin mode s).Runs t (.ok device, s')) : named? s' device = some (pin, mode) := by
  rcases runs_openPin h with ⟨_, _, hr, _⟩ | ⟨_, _, hr, _⟩ | ⟨_, _, _, _, _, hr, _⟩ |
    ⟨device', _, _, hd, hn, _, hr, rfl⟩
  · exact absurd hr nofun
  · exact absurd hr nofun
  · exact absurd hr nofun
  · obtain rfl := Except.ok.inj hr
    have hnone : (s.pins.find? fun q ↦ q.1 == pin) = none := by
      refine List.find?_eq_none.2 fun q hq hpin ↦ hn ?_
      exact beq_iff_eq.1 hpin ▸ List.mem_map_of_mem hq
    rw [named?, DeviceHandle.ofUnsigned?_eq_some_iff.1 hd, Option.bind_some, List.find?_append,
      hnone, Option.none_or, List.find?_singleton, if_pos (beq_self_eq_true pin)]

/-- A handle names the same pin in the same mode until it is closed. -/
theorem named?_of_call_of_ne_close {c : BusAccess.Gpio.Call} {r : Except Error c.Answer}
    {q : UInt32 × PinMode} (hd : named? s device = some q) (hc : c ≠ .close device)
    (h : (table.call c s).Runs t (r, s')) : named? s' device = some q := by
  obtain ⟨p, hu, hfind⟩ := Option.bind_eq_some_iff.1 hd
  cases c with
  | openPin pin mode =>
    rcases runs_openPin h with ⟨_, _, _, rfl⟩ | ⟨_, _, _, rfl⟩ | ⟨_, _, _, _, _, _, rfl⟩ |
      ⟨_, _, _, _, _, _, _, rfl⟩
    · exact hd
    · exact hd
    · exact hd
    · rw [named?, hu, Option.bind_some, List.find?_append, hfind, Option.some_or]
  | read device' => exact (runs_read h).1 ▸ hd
  | write device' value => exact (runs_write h).1 ▸ hd
  | close device' =>
    rcases runs_close h with ⟨_, _, _, rfl⟩ | ⟨pin, _, _, hpin, _, _, rfl⟩
    · exact hd
    · have hne : p ≠ pin := by
        rintro rfl
        have hsame := DeviceHandle.ofUnsigned?_eq_some_iff.2 (unsigned?_of_named? hpin).1
        rw [DeviceHandle.ofUnsigned?_eq_some_iff.2 hu] at hsame
        exact hc (congrArg _ (Option.some.inj hsame).symm)
      have hkeep (x : UInt32 × PinMode) :
          decide ((x.1 != pin) = true ∧ (x.1 == p) = true) = (x.1 == p) := by
        by_cases hx : x.1 = p
        · simp [hx, hne]
        · simp [hx]
      rw [named?, hu, Option.bind_some, List.find?_filter]
      simpa only [hkeep] using hfind
  | setDriveStrength device' drive =>
    obtain ⟨_, _, rfl⟩ := Action.runs_throw.1 h
    exact hd

/-- A pin that is no output is not written. -/
theorem write_of_input {mode : PinMode} (hd : named? s device = some (pin, mode))
    (hmode : mode.isOutput = false) (value : PinValue) :
    write device value s = .done (.error .invalidArgument, s) := by
  show (Action.demand (named? s device) .invalidHandle >>= _) s = _
  rw [hd]
  show (if mode.isOutput = true then _ else throw .invalidArgument : Action interface Core _) s = _
  rw [hmode, if_neg Bool.false_ne_true]
  rfl

/-- **A pin that was opened stays open in its mode** until it is closed or the bus is released. -/
theorem named?_of_uses {q : UInt32 × PinMode} (hb : ∃ s, b.core = some s ∧ named? s device = some q)
    (hclose : .method (.close device) ∉ us) (hrelease : .release ∉ us)
    (h : (Bus.uses (M := BusAccess.Gpio.methods) table us b).Runs t b') :
    ∃ s, b'.core = some s ∧ named? s device = some q := by
  let P (b : Bus Core) : Prop := ∃ s, b.core = some s ∧ named? s device = some q
  have hstep (u : Use BusAccess.Gpio.methods) (hu : u ∈ us) {trace : Trace interface}
      {b b' : Bus Core} (hP : P b) (h : (Bus.use table u b).Runs trace b') : P b' := by
    obtain ⟨s, hs, hd⟩ := hP
    cases u with
    | release => exact absurd hu hrelease
    | method c =>
      obtain ⟨r, h₁⟩ := Bus.runs_use_method h
      obtain ⟨s', h₂, rfl⟩ := Bus.runs_call hs h₁
      have hc : c ≠ .close device := fun hc ↦ hclose (hc ▸ hu)
      exact ⟨s', rfl, named?_of_call_of_ne_close hd hc h₂⟩
  exact Bus.uses_induction (P := fun _ ↦ P) (fun u hu _ _ _ _ ↦ hstep u hu) [] hb h

/-- **A pin that was not opened as an output is not written** while it is open. -/
theorem write_refused_of_input {mode : PinMode} {opening between : Trace interface}
    {b₁ b₂ : Bus Core} (hmode : mode.isOutput = false)
    (hopen : (Bus.call table (.openPin pin mode) b).Runs opening (.ok device, b₁))
    (huses : (Bus.uses (M := BusAccess.Gpio.methods) table us b₁).Runs between b₂)
    (hclose : .method (.close device) ∉ us) (hrelease : .release ∉ us) (value : PinValue) :
    Bus.call table (.write device value) b₂ = .done (.error .invalidArgument, b₂) := by
  obtain ⟨s, hs⟩ := core_of_ok hopen
  obtain ⟨s₁, h₁, rfl⟩ := Bus.runs_call hs hopen
  obtain ⟨s₂, hs₂, hd⟩ := named?_of_uses ⟨s₁, rfl, named?_of_openPin h₁⟩ hclose hrelease huses
  exact Bus.call_at_once hs₂ (write_of_input hd hmode value) rfl

/-! ## Isolation -/

/-- The state of a controller is sound through all its uses. -/
theorem sound_of_uses {roots : Roots} {params : BusAccess.Gpio.Params}
    {made trace : Trace interface} {b₀ : Bus Core}
    (hc : (create roots params).Runs made (.ok b₀))
    (h : (Bus.uses (M := BusAccess.Gpio.methods) table us b₀).Runs trace b) :
    ∀ s, b.core = some s → Sound roots.gpio s := by
  obtain rfl := runs_create hc
  have hnew : Sound roots.gpio { directory := roots.gpio } :=
    ⟨rfl, fun p hp ↦ absurd hp List.not_mem_nil⟩
  have hagrees := (kept roots.gpio).agrees (M := BusAccess.Gpio.methods)
    (Book.agrees_new hnew rfl) h trivial
  exact hagrees.sound

/-- **What is written to a pin is read from it, whatever is done with others.**  After any uses of a
controller, on files that nobody else touches, a read that succeeds gives the level of the last
write to the pin that succeeded, if it was not written to again; uses that are not about a pin leave
all files in its directory as they are; and a pin that was not opened as an output cannot be written
while it is open, which is known without looking at a file. -/
theorem pins_isolated {roots : Roots} {params : BusAccess.Gpio.Params}
    {made past : Trace interface} {b₀ b : Bus Core} {before : List (Use BusAccess.Gpio.methods)}
    (hc : (create roots params).Runs made (.ok b₀))
    (h : (Bus.uses (M := BusAccess.Gpio.methods) table before b₀).Runs past b) :
    (∀ (device : DeviceHandle) (value value' : PinValue) (us : List (Use BusAccess.Gpio.methods))
        (written between asked : Trace interface) (b₁ b₂ b₃ : Bus Core) (tree tree' : Tree),
        (Bus.call table (.write device value) b).Runs written (.ok (), b₁) →
        (Bus.uses (M := BusAccess.Gpio.methods) table us b₁).Runs between b₂ →
        (∀ other, .method (.write device other) ∉ us) →
        (Bus.call table (.read device) b₂).Runs asked (.ok value', b₃) →
        tree.Through (written ++ between ++ asked) tree' → value' = value) ∧
      (∀ (pin : UInt32) (us : List (Use BusAccess.Gpio.methods)) (trace : Trace interface)
        (b' : Bus Core) (tree tree' : Tree),
        (∀ c, .method c ∈ us → pin? c ≠ some pin) →
        (Bus.uses (M := BusAccess.Gpio.methods) table us b).Runs trace b' →
        tree.Through trace tree' → ∀ file,
          tree' (inDirectory (pinDirectory roots.gpio pin) file) =
            tree (inDirectory (pinDirectory roots.gpio pin) file)) ∧
      ∀ (pin : UInt32) (mode : PinMode) (device : DeviceHandle)
        (us : List (Use BusAccess.Gpio.methods)) (opening between : Trace interface)
        (b₁ b₂ : Bus Core), mode.isOutput = false →
        (Bus.call table (.openPin pin mode) b).Runs opening (.ok device, b₁) →
        (Bus.uses (M := BusAccess.Gpio.methods) table us b₁).Runs between b₂ →
        .method (.close device) ∉ us → .release ∉ us →
        ∀ value, Bus.call table (.write device value) b₂ = .done (.error .invalidArgument, b₂) := by
  have hb := sound_of_uses hc h
  refine ⟨?_, ?_, ?_⟩
  · intro device value value' us written between asked b₁ b₂ b₃ tree tree' hwrite huses hus hread ht
    exact value_of_last_write hb hwrite huses hus hread ht
  · intro pin us trace b' tree tree' hus huses ht file
    refine (content_of_uses hb (fun _ ↦ attribute_ne_control) (fun c hcall hfile ↦ ?_) huses ht).2
    exact hus c hcall (pin?_of_attributeFile? hfile)
  · intro pin mode device us opening between b₁ b₂ hmode hopen huses hclose hrelease
    exact write_refused_of_input hmode hopen huses hclose hrelease

/-- Pin 7 is written, pin 71 is opened although claiming it is refused, and pin 7 is read.  Pin 71
takes no level. -/
theorem pins_isolated_seven :
    let directory := "/sys/class/gpio"
    let b : Bus Core :=
      { backend := name, core := some { directory, pins := [(7, .output)] }, openDevices := 1 }
    let b₂ : Bus Core :=
      { b with core := some { directory, pins := [(7, .output), (71, .inputPullUp)] }
               openDevices := 2 }
    let written : Trace interface := [attributeStep directory 7 "value" "1" true]
    let between : Trace interface := [Control.claim.step directory 71 false,
      .reported (.debug "sysfs write ignored"),
      .reported (.warn "sysfs gpio has no pull control, using plain input"),
      attributeStep directory 71 "direction" "in" true]
    let asked : Trace interface := [readStep directory 7 (some (fileBytes "1"))]
    (Bus.call table (.write ⟨7⟩ .high) b).Runs written (.ok (), b) ∧
      (Bus.uses (M := BusAccess.Gpio.methods) table [.method (.openPin 71 .inputPullUp)] b).Runs
        between b₂ ∧
      (∃ value, (Bus.call table (.read ⟨7⟩) b₂).Runs asked (.ok value, b₂)) ∧
      (∃ tree, Tree.Through (fun _ ↦ none) (written ++ between ++ asked) tree) ∧
      (∀ (value : PinValue) (tree : Tree),
        (Bus.call table (.read ⟨7⟩) b₂).Runs asked (.ok value, b₂) →
        Tree.Through (fun _ ↦ none) (written ++ between ++ asked) tree → value = .high) ∧
      Bus.call table (.write ⟨71⟩ .low) b₂ = .done (.error .invalidArgument, b₂) := by
  intro directory b b₂ written between asked
  have hc : (create {} {}).Runs
      [.asked (.present (inDirectory directory "export")) true, .asked .reserve true]
      (.ok (.new name { directory })) := .ask (.ask (.done _))
  have h : (Bus.uses (M := BusAccess.Gpio.methods) table [.method (.openPin 7 .output)]
      (.new name { directory })).Runs [Control.claim.step directory 7 true,
        attributeStep directory 7 "direction" "out" true] b := .ask (.ask (.done _))
  obtain ⟨hlast, -, hinput⟩ := pins_isolated hc h
  have hwrite : (Bus.call table (.write ⟨7⟩ .high) b).Runs written (.ok (), b) := .ask (.done _)
  have hopen : (Bus.call table (.openPin 71 .inputPullUp) b).Runs between (.ok ⟨71⟩, b₂) :=
    .ask (.report (.report (.ask (.done _))))
  have huses : (Bus.uses (M := BusAccess.Gpio.methods) table
      [.method (.openPin 71 .inputPullUp)] b).Runs between b₂ :=
    .ask (.report (.report (.ask (.done _))))
  have hthrough : ∃ tree, Tree.Through (fun _ ↦ none) (written ++ between ++ asked) tree := by
    refine ⟨_, .cons (.replaced _ _) (.cons (.spoiled _ _ none) (.cons (.reported _)
      (.cons (.reported _) (.cons (.replaced _ _) (.cons (.read ?_) (.nil _))))))⟩
    rw [Function.update_of_ne (mt attribute_inj.1 (by decide)),
      Function.update_of_ne (attribute_ne_control (w := .claim)), Function.update_self]
  refine ⟨hwrite, huses, ⟨_, .ask (.done _)⟩, hthrough, fun value tree hread ht ↦ ?_, ?_⟩
  · refine hlast ⟨7⟩ .high value _ _ _ _ b b₂ b₂ _ tree hwrite huses (fun other hm ↦ ?_) hread ht
    exact absurd (List.mem_singleton.1 hm) nofun
  · exact hinput 71 .inputPullUp ⟨71⟩ [] between [] b₂ b₂ rfl hopen (.done _) List.not_mem_nil
      List.not_mem_nil .low

end BusAccess.Node.Gpio
