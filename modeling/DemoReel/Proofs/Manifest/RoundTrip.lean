import DemoReel.Manifest.Json
import DemoReel.Proofs.Json.Standard
import DemoReel.Proofs.Manifest.Enrolling
import DemoReel.Proofs.Script.Timestamps
import DemoReel.Xml.Document

/-!
# Manifests through JSON

Whatever is read from a document fits the integers of JSON records, and its frame rate is finite.
Its colors need not be, and a number that is not finite is written as null. Main statement: with any
library for JSON, a manifest that is read from a document comes back from its JSON text exactly if
all its colors are finite (`Manifest.ofJsonText?_jsonText`).
-/

namespace DemoReel

/-- The first of several fields is found by its name. -/
theorem Json.fieldOr_cons {α δ : Type} (fs : List (String × δ)) (f : String × δ) (name : String)
    (default : α) (read : δ → Option α) : fieldOr (f :: fs) name default read =
      if name = f.1 then read f.2 else fieldOr fs name default read := by
  obtain ⟨k, v⟩ := f
  by_cases hname : name = k
  · simp [fieldOr, hname]
  · simp [fieldOr, List.lookup_cons, hname, beq_false_of_ne hname]

variable {J : Json.Library}

namespace Json.Library.Lawful

theorem binary32?_ofBinary32 (hJ : J.Lawful) {x : Float32}
    (h : x.isFinite = true → J.Exact x) :
    J.binary32? (J.ofBinary32 x) = if x.isFinite then some x else none := by
  cases hfinite : x.isFinite with
  | true => exact h hfinite
  | false =>
    rw [hJ.infinite hfinite, hJ.null]
    rfl

end Json.Library.Lawful

namespace Color

/-- The numbers of a color. -/
def channels (c : Color) : List Float32 := [c.red, c.green, c.blue, c.alpha]

/-- No channel is infinite or "not a number". -/
def IsFinite (c : Color) : Prop := ∀ x ∈ c.channels, x.isFinite = true

instance (c : Color) : Decidable c.IsFinite :=
  inferInstanceAs (Decidable (∀ x ∈ c.channels, x.isFinite = true))

variable {c : Color}

theorem built_toJson (c : Color) : J.Built (c.toJson J) := by
  refine .list fun v hv => ?_
  obtain ⟨x, -, rfl⟩ : ∃ x ∈ c.channels, J.ofBinary32 x = v := List.mem_map.1 hv
  exact .binary32 x

theorem ofJson?_toJson (hJ : J.Lawful)
    (hexact : ∀ x ∈ c.channels, x.isFinite = true → J.Exact x) :
    ofJson? J (c.toJson J) = if c.IsFinite then some c else none := by
  have hread : ∀ x ∈ c.channels,
      J.binary32? (J.ofBinary32 x) = if x.isFinite then some x else none :=
    fun x hx => hJ.binary32?_ofBinary32 (hexact x hx)
  obtain ⟨r, g, b, a⟩ := c
  simp only [channels, List.forall_mem_cons] at hread
  simp [toJson, ofJson?, hJ.list, hread, IsFinite, channels, ite_some_bind, ite_and]

end Color

namespace PartSpec

variable {p : PartSpec}

theorem built_toJson (p : PartSpec) : J.Built (p.toJson J) := by
  refine .fields ?_
  simp only [List.forall_mem_cons, List.not_mem_nil, false_implies, implies_true, and_true]
  exact ⟨.string _, .string _, p.color.built_toJson, .string _, .bool _, .int _⟩

theorem ofJson?_toJson (hJ : J.Lawful) (hperiod : 0 ≤ p.period ∧ p.period ≤ Number.maxInt64)
    (hexact : ∀ x ∈ p.color.channels, x.isFinite = true → J.Exact x) :
    ofJson? J (p.toJson J) = if p.color.IsFinite then some p else none := by
  have hfields : J.fields? jsonNames (p.toJson J) = some _ := hJ.fields rfl (by decide)
  have hcolor := Color.ofJson?_toJson hJ hexact
  have hperiod : J.integer? Number.minInt64 Number.maxInt64 (J.ofInt p.period) =
      some p.period := by
    unfold Number.maxInt64 at hperiod
    apply hJ.integer hperiod.1
    · unfold Number.maxUInt64
      omega
    · unfold Number.minInt64
      omega
    · exact hperiod.2
  simp [ofJson?, hfields, Json.fieldOr_cons, hJ.text, hJ.word, hJ.bool,
    PartKind.ofJsonName?_text, hcolor, Target.ofJsonName?_jsonName, hperiod, ite_some_bind]

end PartSpec

namespace Settings

variable {s : Settings}

theorem built_toJson (s : Settings) : J.Built (s.toJson J) := by
  refine .fields ?_
  simp only [List.forall_mem_cons, List.not_mem_nil, false_implies, implies_true, and_true]
  exact ⟨.int _, .int _, .binary32 _, .bool _⟩

theorem pixels?_ofInt (hJ : J.Lawful) {n : Nat} (h : n ≤ Number.maxUInt32) :
    pixels? J (J.ofInt n) = some n := by
  have hread : J.integer? 0 Number.maxUInt32 (J.ofInt n) = some (n : Int) := by
    unfold Number.maxUInt32 at h
    apply hJ.integer
    · omega
    · unfold Number.maxUInt64
      omega
    · omega
    · unfold Number.maxUInt32
      omega
  rw [pixels?, hread]
  rfl

theorem ofJson?_toJson (hJ : J.Lawful) (hwidth : s.width ≤ Number.maxUInt32)
    (hheight : s.height ≤ Number.maxUInt32) (hfps : J.Exact s.fps) :
    ofJson? J (s.toJson J) = some s := by
  have hfields : J.fields? jsonNames (s.toJson J) = some _ := hJ.fields rfl (by decide)
  have hfps : J.binary32? (J.ofBinary32 s.fps) = some s.fps := hfps
  simp [ofJson?, hfields, Json.fieldOr_cons, pixels?_ofInt hJ hwidth, pixels?_ofInt hJ hheight,
    hfps, hJ.bool]

end Settings

/-! ## Manifests -/

namespace Manifest

variable {m : Manifest}

/-- The floating-point numbers of a manifest. -/
def numbers (m : Manifest) : List Float32 :=
  m.settings.fps :: m.parts.flatMap fun p => p.color.channels

theorem built_toJson (m : Manifest) : J.Built (m.toJson J) := by
  refine .fields ?_
  simp only [List.forall_mem_cons, List.not_mem_nil, false_implies, implies_true, and_true]
  refine ⟨m.settings.built_toJson, .list fun v hv => ?_⟩
  obtain ⟨p, -, rfl⟩ := List.mem_map.1 hv
  exact p.built_toJson

/-- The integers of the manifest are in the ranges that JSON records have for them, and frames come
at a finite rate. -/
structure Fits (m : Manifest) : Prop where
  width : m.settings.width ≤ Number.maxUInt32
  height : m.settings.height ≤ Number.maxUInt32
  fps : m.settings.fps.isFinite = true
  periods : ∀ p ∈ m.parts, 0 ≤ p.period ∧ p.period ≤ Number.maxInt64

theorem ofJson?_toJson (hJ : J.Lawful) (hfits : m.Fits)
    (hexact : ∀ x ∈ m.numbers, x.isFinite = true → J.Exact x) :
    ofJson? J (m.toJson J) = if ∀ p ∈ m.parts, p.color.IsFinite then some m else none := by
  have hfields : J.fields? jsonNames (m.toJson J) = some _ := hJ.fields rfl (by decide)
  have hsettings : Settings.ofJson? J (m.settings.toJson J) = some m.settings :=
    Settings.ofJson?_toJson hJ hfits.width hfits.height (hexact _ List.mem_cons_self hfits.fps)
  have hpart : ∀ p ∈ m.parts, PartSpec.ofJson? J (p.toJson J) =
      if p.color.IsFinite then some p else none := by
    intro p hp
    apply PartSpec.ofJson?_toJson hJ (hfits.periods p hp)
    intro x hx
    exact hexact x (List.mem_cons_of_mem _ (List.mem_flatMap.2 ⟨p, hp, hx⟩))
  have hparts : partsOfJson? J (J.ofList (m.parts.map (·.toJson J))) =
      if ∀ p ∈ m.parts, p.color.IsFinite then some m.parts else none := by
    rw [partsOfJson?, hJ.list, Option.bind_some]
    split
    · next hfinite =>
      refine mapM_map_eq_self fun p hp => ?_
      rw [hpart p hp, if_pos (hfinite p hp)]
    · next hinfinite =>
      obtain ⟨p, hp, hcolor⟩ : ∃ p ∈ m.parts, ¬ p.color.IsFinite := by simpa using hinfinite
      apply mapM_eq_none (List.mem_map_of_mem hp)
      rw [hpart p hp, if_neg hcolor]
  simp [ofJson?, hfields, Json.fieldOr_cons, hsettings, hparts, ite_some_bind]

end Manifest

/-! ## What documents hold -/

theorem pixels_le {e : Xml.Element} {tag : String} {default n : Nat}
    (h : valueOr e tag default readPixels = .ok n) (hdefault : default ≤ Number.maxUInt32) :
    n ≤ Number.maxUInt32 := by
  have hread := valueOr_eq_ok_iff.1 h
  cases hvalue : e.value? tag with
  | none =>
    rw [hvalue] at hread
    exact hread ▸ hdefault
  | some t =>
    rw [hvalue] at hread
    exact Number.readNat_le (mapError_eq_ok_iff.1 hread)

theorem Settings.fits_of_ofElement {e : Xml.Element} {s : Settings}
    (h : Settings.ofElement e = .ok s) :
    s.width ≤ Number.maxUInt32 ∧ s.height ≤ Number.maxUInt32 ∧ s.fps.isFinite = true := by
  simp only [Settings.ofElement, bind_eq_ok_iff] at h
  obtain ⟨width, hwidth, height, hheight, fps, -, pruneEffects, -, h⟩ := h
  split at h
  · cases h
  · split at h
    · next hrate =>
      cases h
      exact ⟨pixels_le hwidth (by decide), pixels_le hheight (by decide), hrate.1⟩
    · cases h

theorem Manifest.Declares.period_le {e : Xml.Element} {p : PartSpec} (h : Declares e p) :
    0 ≤ p.period ∧ p.period ≤ Number.maxInt64 := by
  have hperiod := h.period
  cases hvalue : e.value? "period" with
  | none =>
    rw [hvalue] at hperiod
    rw [show p.period = 1000 from hperiod]
    decide
  | some t =>
    rw [hvalue] at hperiod
    exact ⟨Script.timestamp?_nonneg hperiod, Script.timestamp?_le hperiod⟩

namespace Manifest

variable {text : String} {m : Manifest}

theorem exists_declares {elements : List Xml.Element} {parts : List PartSpec}
    (h : List.Forall₂ Declares elements parts) {p : PartSpec} (hp : p ∈ parts) :
    ∃ e, Declares e p := by
  induction h with
  | nil => cases hp
  | cons hfirst _ ih =>
    rcases List.mem_cons.1 hp with rfl | hp
    · exact ⟨_, hfirst⟩
    · exact ih hp

theorem fits_of_ofElement {root : Xml.Element} (h : ofElement root = .ok m) : m.Fits := by
  obtain ⟨-, hsettings, hparts⟩ := ofElement_eq_ok_iff.1 h
  have hperiods : ∀ p ∈ m.parts, 0 ≤ p.period ∧ p.period ≤ Number.maxInt64 := by
    intro p hp
    obtain ⟨e, hdeclares⟩ := exists_declares hparts hp
    exact hdeclares.period_le
  cases hhead : (root.named "settings").head? with
  | none =>
    rw [hhead] at hsettings
    have hdefault : {} = m.settings := Except.ok.inj hsettings
    refine ⟨?_, ?_, ?_, hperiods⟩ <;> rw [← hdefault] <;> decide
  | some e =>
    rw [hhead] at hsettings
    obtain ⟨hwidth, hheight, hfps⟩ := Settings.fits_of_ofElement hsettings
    exact ⟨hwidth, hheight, hfps, hperiods⟩

/-- A manifest from a document comes back from its JSON text if its colors are finite; else this
text holds no manifest at all. -/
theorem ofJsonText?_jsonText (hJ : J.Lawful) {xml : Xml.Library} (h : ofXml xml text = .ok m)
    (hexact : ∀ x ∈ m.numbers, x.isFinite = true → J.Exact x) :
    ofJsonText? J (m.jsonText J) =
      if ∀ p ∈ m.parts, p.color.IsFinite then some m else none := by
  have hfits : m.Fits := by
    unfold ofXml at h
    split at h
    · exact fits_of_ofElement h
    · cases h
  rw [ofJsonText?, jsonText, hJ.read_write m.built_toJson, Option.bind_some]
  exact ofJson?_toJson hJ hfits hexact

/-- A part whose name has to be escaped, with a negative zero and a large number in its color. -/
theorem ofJsonText?_jsonText_glow :
    let text := "<demo><settings><fps>25</fps></settings><part><name>glow &quot;</name>" ++
      "<color>-0 1e38 128</color><target>t2</target><period>2s</period></part></demo>"
    let glow : PartSpec := {
      name := "glow \"", color := ⟨-0, 1e38 / 255, 128 / 255, 1⟩, target := .offscreen 2
      period := 2000 }
    let m : Manifest := { settings := { fps := 25 }, parts := [glow] }
    Json.standard.Lawful ∧ ofXml Xml.document? text = .ok m ∧
      (∀ x ∈ m.numbers, Json.standard.Exact x) ∧ glow.color.IsFinite ∧
      ofJsonText? Json.standard (m.jsonText Json.standard) = some m := by
  intro text glow m
  have hread : ofXml Xml.document? text = .ok m := by decide +kernel
  have hexact : ∀ x ∈ m.numbers, Json.standard.Exact x := by decide +kernel
  have hfinite : glow.color.IsFinite := by decide +kernel
  refine ⟨Json.standard_lawful, hread, hexact, hfinite, ?_⟩
  rw [ofJsonText?_jsonText Json.standard_lawful hread fun x hx _ => hexact x hx]
  have hparts : ∀ p ∈ m.parts, p.color.IsFinite := List.forall_mem_singleton.2 hfinite
  exact if_pos hparts

/-- The color that is read for `inf` can be written in JSON, but the JSON text of the manifest has
null in its place. -/
theorem ofJsonText?_jsonText_infinite :
    let text := "<demo><part><name>a</name><color>inf 0 0</color></part></demo>"
    let json := "\x7b\"parts\":[\x7b\"name\":\"a\",\"color\":[1e40,0,0,1]\x7d]\x7d"
    let infinity := Float32.ofBits 0x7F800000
    let m : Manifest := { parts := [{ name := "a", color := ⟨infinity, 0, 0, 1⟩ }] }
    ofXml Xml.document? text = .ok m ∧
      (∀ x ∈ m.numbers, x.isFinite = true → Json.standard.Exact x) ∧
      ofJsonText? Json.standard json = some m ∧
      ofJsonText? Json.standard (m.jsonText Json.standard) = none := by
  intro text json infinity m
  refine ⟨by decide +kernel, by decide +kernel, by decide +kernel, ?_⟩
  rw [ofJsonText?, jsonText, Json.standard_lawful.read_write m.built_toJson, Option.bind_some]
  decide +kernel

end Manifest

end DemoReel
