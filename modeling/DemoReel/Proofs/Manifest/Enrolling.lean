import DemoReel.Manifest.Reading
import DemoReel.Proofs.Fallible
import DemoReel.Proofs.Part.Change
import DemoReel.Proofs.Text.Words

/-!
# Enrolling what a manifest declares

The parts of a manifest are registered one after the other, so a name that is declared more than
once goes to the last of its declarations. A registry takes a part under any name but the empty
one, and no document declares a part under that. Main statement: whatever manifest is read from a
document, every registry takes it (`Manifest.accepted_of_ofElement`).
-/

namespace DemoReel

variable {π : Type}

/-! ## What is read -/

/-- A value is not empty, and there is no white space around it. -/
theorem Xml.Element.trimmed_of_value? {e : Xml.Element} {tag t : String}
    (h : e.value? tag = some t) : t ≠ "" ∧ Text.IsTrimmed t.toList := by
  obtain ⟨text, -, ht⟩ := Option.bind_eq_some_iff.1 h
  by_cases hempty : Text.trimmed text = ""
  · simp [hempty] at ht
  · have htrimmed : Text.trimmed text = t := by simpa [hempty] using ht
    rw [htrimmed] at hempty
    refine ⟨hempty, ?_⟩
    rw [← htrimmed, Text.trimmed, String.toList_ofList]
    exact Text.isTrimmed_trim text.toList

theorem Settings.area_of_ofElement {e : Xml.Element} {s : Settings}
    (h : Settings.ofElement e = .ok s) : s.width ≠ 0 ∧ s.height ≠ 0 := by
  simp only [Settings.ofElement, bind_eq_ok_iff] at h
  obtain ⟨width, -, height, -, fps, -, pruneEffects, -, h⟩ := h
  split at h
  · cases h
  · next harea =>
    split at h
    · cases h
      exact not_or.1 harea
    · cases h

section

variable {α : Type} {e : Xml.Element} {tag : String} {default a : α}

/-- What is read is either the value or, where there is none, the default. -/
theorem valueOr_eq_ok_iff {read : String → Except ManifestFault α} :
    valueOr e tag default read = .ok a ↔
      (e.value? tag).elim (a = default) fun t => read t = .ok a := by
  unfold valueOr
  cases e.value? tag with
  | none => simp [eq_comm]
  | some t => exact Iff.rfl

theorem readNamed_eq_ok_iff {known : String → Option α} {fault : String → ManifestFault}
    {t : String} : readNamed known fault t = .ok a ↔ known t = some a := by
  unfold readNamed
  cases known t <;> simp

end

theorem readFlag_eq_ok_iff {t : String} {b : Bool} :
    readFlag t = .ok b ↔ t = if b then "true" else "false" := by
  unfold readFlag Script.boolean?
  split
  · next hb =>
    split at hb
    · cases hb
      cases b <;> simp
    · cases hb
      cases b <;> simp
    · cases hb
  · next hb =>
    split at hb
    · cases hb
    · cases hb
    · next htrue hfalse =>
      cases b
      · exact ⟨fun h => (nomatch h), fun h => absurd h hfalse⟩
      · exact ⟨fun h => (nomatch h), fun h => absurd h htrue⟩

namespace Manifest

/-- The part is what the element declares, field by field. -/
structure Declares (e : Xml.Element) (p : PartSpec) : Prop where
  name : e.value? "name" = some p.name
  kind : (e.value? "kind").elim (p.kind = .solid) fun t => PartKind.ofText? t = some p.kind
  target : (e.value? "target").elim (p.target = .framebuffer) fun t =>
    Target.ofText? t = some p.target
  period : (e.value? "period").elim (p.period = 1000) fun t =>
    Script.timestamp? t = some p.period
  color : (e.value? "color").elim (p.color = .white) fun t => readColor t = .ok p.color
  clear : (e.value? "clear").elim (p.clear = false) fun t =>
    t = if p.clear then "true" else "false"

theorem partOfElement_eq_ok_iff {e : Xml.Element} {p : PartSpec} :
    partOfElement e = .ok p ↔ Declares e p := by
  obtain ⟨name, kind, color, target, clear, period⟩ := p
  unfold partOfElement
  cases hname : e.value? "name" with
  | none => exact ⟨fun h => (nomatch h), fun h => (nomatch hname.symm.trans h.name)⟩
  | some name' =>
    simp only [mapError_eq_ok_iff, PartSpec.ofElement, bind_eq_ok_iff, valueOr_eq_ok_iff,
      readNamed_eq_ok_iff, readFlag_eq_ok_iff]
    constructor
    · rintro ⟨kind, hkind, target, htarget, period, hperiod, color, hcolor, clear, hclear, h⟩
      cases h
      exact ⟨hname, hkind, htarget, hperiod, hcolor, hclear⟩
    · rintro ⟨hname', hkind, htarget, hperiod, hcolor, hclear⟩
      cases hname.symm.trans hname'
      exact ⟨kind, hkind, target, htarget, period, hperiod, color, hcolor, clear, hclear, rfl⟩

/-- The settings are read from the first element for them. -/
theorem ofElement_eq_ok_iff {root : Xml.Element} {m : Manifest} :
    ofElement root = .ok m ↔
      root.name.base = "demo" ∧
        ((root.named "settings").head?.elim (.ok {}) Settings.ofElement = .ok m.settings) ∧
        List.Forall₂ Declares (root.named "part") m.parts := by
  obtain ⟨settings, parts⟩ := m
  have hparts : (root.named "part").mapM partOfElement = .ok parts ↔
      List.Forall₂ Declares (root.named "part") parts := by
    simp only [mapM_eq_ok_iff, partOfElement_eq_ok_iff]
  unfold ofElement
  split
  · next hname => simp [hname]
  · next hname =>
    rw [← hparts]
    cases (root.named "settings").head? with
    | none => simp [bind_eq_ok_iff, pure, Except.pure, not_not.1 hname, and_comm]
    | some e => simp [bind_eq_ok_iff, pure, Except.pure, not_not.1 hname]

end Manifest

/-! ## What is registered -/

/-- The part that a declaration stands for: a solid has a color, and a pulse has a color and a
period. -/
inductive PartSpec.Builds (p : PartSpec) : Scene → Prop where
  | solid (h : p.kind = .solid) : Builds p (.solid p.color)
  | pulse (h : p.kind = .pulse) : Builds p (.pulse p.color p.period)

theorem PartSpec.builds_scene (p : PartSpec) : p.Builds p.scene := by
  unfold scene
  split
  · next h => exact .solid h
  · next h => exact .pulse h

/-- What a registry is asked for by a declaration. -/
def PartSpec.enrolling (build : Scene → π) (p : PartSpec) : Registry.Change π :=
  .add p.name (build p.scene) p.settings

namespace Registry

variable {build : Scene → π} {parts : List PartSpec}

theorem exists_add_eq_ok (r : Registry π) {name : String} (h : name ≠ "") (part : π)
    (settings : PartSettings) : ∃ u, r.add name part settings = .ok u := by
  rw [add, if_neg h]
  cases r.get? name with
  | none => exact ⟨_, rfl⟩
  | some old => exact ⟨_, rfl⟩

theorem get?_run_enrolling_of_ne (r : Registry π) {name : String}
    (hfilled : ∀ p ∈ parts, p.name ≠ "") (hne : ∀ p ∈ parts, p.name ≠ name) :
    (r.run (parts.map (·.enrolling build))).get? name = r.get? name := by
  induction parts generalizing r with
  | nil => rfl
  | cons p rest ih =>
    obtain ⟨hp, hrest⟩ := List.forall_mem_cons.1 hfilled
    obtain ⟨hother, hothers⟩ := List.forall_mem_cons.1 hne
    calc ((r.after (p.enrolling build)).run (rest.map (·.enrolling build))).get? name
        = (r.after (p.enrolling build)).get? name := ih _ hrest hothers
      _ = r.get? name := by
        rw [PartSpec.enrolling, get?_after_add p.name name _ _ hp, if_neg (Ne.symm hother)]

/-- The last of several declarations of a name decides. -/
theorem get?_run_enrolling_last (r : Registry π) {front back : List PartSpec} {p : PartSpec}
    (hp : p.name ≠ "") (hfilled : ∀ q ∈ back, q.name ≠ "") (hlast : ∀ q ∈ back, q.name ≠ p.name) :
    (r.run ((front ++ p :: back).map (·.enrolling build))).get? p.name =
      some ⟨build p.scene, p.settings, .idle⟩ := by
  let before := r.run (front.map (·.enrolling build))
  have hsplit : r.run ((front ++ p :: back).map (·.enrolling build)) =
      (before.after (p.enrolling build)).run (back.map (·.enrolling build)) := by
    rw [run, List.map_append, List.foldl_append]
    rfl
  rw [hsplit, get?_run_enrolling_of_ne _ hfilled hlast, PartSpec.enrolling,
    get?_after_add p.name p.name _ _ hp, if_pos rfl]

end Registry

namespace Manifest

variable {build : Scene → π}

/-- Parts whose names are not empty are all registered. -/
theorem exists_enrollAll {parts : List PartSpec} (hfilled : ∀ p ∈ parts, p.name ≠ "")
    (r : Registry π) (events : List Event) :
    ∃ events', enrollAll build r events parts =
      (.ok (), r.run (parts.map (·.enrolling build)), events') := by
  induction parts generalizing r events with
  | nil => exact ⟨events, rfl⟩
  | cons p rest ih =>
    obtain ⟨hp, hrest⟩ := List.forall_mem_cons.1 hfilled
    obtain ⟨u, hu⟩ := r.exists_add_eq_ok hp (build p.scene) p.settings
    have hafter : r.after (p.enrolling build) = u.registry := by
      rw [Registry.after, PartSpec.enrolling, Registry.Change.on, hu]
      rfl
    rw [enrollAll, hu, List.map_cons, Registry.run, List.foldl_cons, hafter]
    exact ih hrest u.registry _

/-- `r'` is the registry `r` with the parts of the manifest. -/
structure IsEnrolled (build : Scene → π) (m : Manifest) (r r' : Registry π) : Prop where
  /-- A name that is not declared has what it had. -/
  others : ∀ name, (∀ p ∈ m.parts, p.name ≠ name) → r'.get? name = r.get? name
  /-- A name that is declared has what its last declaration says. The part does not run, whatever
  had the name before. -/
  last : ∀ front p back, m.parts = front ++ p :: back → (∀ q ∈ back, q.name ≠ p.name) →
    ∃ scene, p.Builds scene ∧ r'.get? p.name =
      some ⟨build scene, { target := p.target, clear := p.clear }, .idle⟩

/-- What can be relied on once a manifest is read from a document. -/
structure Accepted (root : Xml.Element) (m : Manifest) : Prop where
  area : m.settings.width ≠ 0 ∧ m.settings.height ≠ 0
  names : ∀ p ∈ m.parts, p.name ≠ "" ∧ Text.IsTrimmed p.name.toList
  /-- The parts are those that the document declares, in its order. -/
  parts : List.Forall₂ Declares (root.named "part") m.parts
  /-- Every registry takes the parts, and it is told how many there are. -/
  enrolls : ∀ (π : Type) (build : Scene → π) (r : Registry π), ∃ r' events,
    m.enroll build r = (.ok (root.named "part").length, r', events) ∧ IsEnrolled build m r r'

theorem accepted_of_ofElement {root : Xml.Element} {m : Manifest} (h : ofElement root = .ok m) :
    Accepted root m := by
  obtain ⟨-, hsettings, hparts⟩ := ofElement_eq_ok_iff.1 h
  have hnames : ∀ p ∈ m.parts, p.name ≠ "" ∧ Text.IsTrimmed p.name.toList := by
    have hdeclared : List.Forall₂ (fun p e => (p.name ≠ "" ∧ Text.IsTrimmed p.name.toList) ∧
        Declares e p) m.parts (root.named "part") :=
      hparts.flip.imp fun _ _ h => ⟨Xml.Element.trimmed_of_value? h.name, h⟩
    exact ((List.forall₂_and_left _ _).1 hdeclared).1
  have hfilled : ∀ p ∈ m.parts, p.name ≠ "" := fun p hp => (hnames p hp).1
  refine ⟨?_, hnames, hparts, fun π build r => ?_⟩
  · cases hhead : (root.named "settings").head? with
    | none =>
      rw [hhead] at hsettings
      have hdefault : {} = m.settings := Except.ok.inj hsettings
      rw [← hdefault]
      decide
    | some e =>
      rw [hhead] at hsettings
      exact Settings.area_of_ofElement hsettings
  · obtain ⟨events, henroll⟩ := exists_enrollAll hfilled r []
    refine ⟨r.run (m.parts.map (·.enrolling build)), events, ?_, fun name hne => ?_,
      fun front p back hsplit hlast => ?_⟩
    · rw [enroll, henroll, hparts.length_eq]
      rfl
    · exact r.get?_run_enrolling_of_ne hfilled hne
    · rw [hsplit] at hfilled ⊢
      obtain ⟨-, hback⟩ := List.forall_mem_append.1 hfilled
      obtain ⟨hp, hback⟩ := List.forall_mem_cons.1 hback
      exact ⟨p.scene, p.builds_scene, r.get?_run_enrolling_last hp hback hlast⟩

/-- `glow` is declared twice, and comes to a registry where a part of that name runs. -/
theorem accepted_of_ofElement_twice :
    let tag (name : String) (children : List Xml.Node) : Xml.Node := .element ⟨"", name⟩ [] children
    let root : Xml.Element := ⟨⟨"", "demo"⟩, [], [
      tag "part" [tag "name" [.text " glow\n"], tag "target" [.text "t1"]],
      tag "settings" [tag "width" [.text "320"]],
      .text "not a part",
      tag "part" [tag "name" [.text "intro"], tag "color" [.text "255 0 0"], tag "target" []],
      tag "part" [tag "name" [.text "glow"], tag "kind" [.text "Pulse"],
        tag "color" [.text "0 255 0"], tag "period" [.text "2s"], tag "target" [.text "t2"],
        tag "clear" [.text "true"]]]⟩
    let r : Registry Scene := Registry.empty.run
      [.add "glow" (.solid .black) {}, .start "glow" 5, .add "coda" (.solid .black) {},
        .start "coda" 7]
    ∃ m, ofElement root = .ok m ∧ m.settings.width = 320 ∧ ∃ r' events,
      m.enroll id r = (.ok 3, r', events) ∧
      r'.get? "intro" = some ⟨.solid ⟨1, 0, 0, 1⟩, {}, .idle⟩ ∧
      r'.get? "glow" = some ⟨.pulse ⟨0, 1, 0, 1⟩ 2000, { target := .offscreen 2, clear := true },
        .idle⟩ ∧
      r'.get? "coda" = some ⟨.solid .black, {}, .running 7⟩ := by
  intro tag root r
  let glow : PartSpec := { name := "glow", target := .offscreen 1 }
  let other : PartSpec := { name := "intro", color := ⟨1, 0, 0, 1⟩ }
  let again : PartSpec := {
    name := "glow", kind := .pulse, color := ⟨0, 1, 0, 1⟩, target := .offscreen 2, clear := true
    period := 2000 }
  let m : Manifest := { settings := { width := 320 }, parts := [glow, other, again] }
  have h : ofElement root = .ok m := by decide +kernel
  obtain ⟨r', events, henroll, henrolled⟩ := (accepted_of_ofElement h).enrolls Scene id r
  refine ⟨m, h, rfl, r', events, henroll, ?_, ?_, ?_⟩
  · obtain ⟨scene, hscene, hintro⟩ := henrolled.last [glow] other [again] rfl (by decide)
    cases hscene with
    | solid => exact hintro
    | pulse hkind => cases hkind
  · obtain ⟨scene, hscene, hglow⟩ := henrolled.last [glow, other] again [] rfl nofun
    cases hscene with
    | solid hkind => cases hkind
    | pulse => exact hglow
  · rw [henrolled.others "coda" (by decide)]
    rfl

end Manifest

end DemoReel
