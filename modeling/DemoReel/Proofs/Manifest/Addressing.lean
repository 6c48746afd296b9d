import DemoReel.Graphics.Rehearsal
import DemoReel.Proofs.Manifest.Enrolling
import DemoReel.Proofs.Playback.Feasible
import DemoReel.Proofs.Script.Listing

/-!
# Getting at declared parts

A document may declare a part under any text that is not empty; a script is cut at white space and
ends its lines at a semicolon. Main statement: a part that a document declares can be named in a
script exactly if its name has neither in it, and the command that starts it then does so
(`Manifest.addressed_of_ofElement`).
-/

namespace DemoReel

namespace Script

open Text (IsWord)

/-- Nothing in the name ends a word or a line. -/
def Addressable (name : String) : Prop := ∀ c ∈ name.toList, Text.isBlank c = false ∧ c ≠ ';'

instance (name : String) : Decidable (Addressable name) :=
  List.decidableBAll (fun c => Text.isBlank c = false ∧ c ≠ ';') name.toList

/-- Whatever a command is given, a line can say. -/
theorem addressable_of_mem_args {n : Nat} {raw : String} {c : Command} {a : String}
    (h : Line.parse n raw = .command c) (ha : a ∈ c.args) : Addressable a := by
  have hspellable := spellable_of_parse h
  have hword : IsWord a.toList := hspellable.args_settled.isWord _ (List.mem_map_of_mem ha)
  exact fun d hd => ⟨hword.solid d hd, fun heq => hspellable.args_uncommented a ha (heq ▸ hd)⟩

end Script

namespace Command

/-- The command of line number `line` that starts a part at once. -/
def starting (name : String) (line : Nat) : Command := ⟨0, .startPart, [name], line⟩

theorem text_starting (name : String) (line : Nat) :
    (starting name line).text = "0 START_PART " ++ name := by
  have hzero : Number.integerText 0 = "0" := by decide
  refine String.toList_inj.1 ?_
  rw [Script.toList_text, Script.Spellable.words, starting, hzero, String.toList_append]
  simp [List.intercalate, Keyword.text]

/-- A name is read as it is written if it is a word without a comment in it. -/
theorem parse_starting_iff {name : String} (hname : name ≠ "") {line : Nat} :
    Script.Line.parse line ("0 START_PART " ++ name) = .command (starting name line) ↔
      Script.Addressable name := by
  constructor
  · intro h
    exact Script.addressable_of_mem_args h (List.mem_singleton.2 rfl)
  · intro h
    have hword : Text.IsWord name.toList :=
      ⟨fun hnil => hname (String.toList_inj.1 hnil), fun c hc => (h c hc).1⟩
    have hspellable : Script.Spellable (starting name line) :=
      { due_nonneg := Int.le_refl 0
        due_le := Int.natCast_nonneg _
        args_settled := .singleton hword
        args_uncommented := by
          intro a ha hc
          obtain rfl := List.mem_singleton.1 ha
          exact (h _ hc).2 rfl
        bare := nofun }
    have hgap : Text.IsGap "".toList := nofun
    have hparse := hspellable.parse_text line hgap
    rwa [String.append_empty, text_starting] at hparse

/-- A registered part can be started, and nothing else changes. -/
theorem dispatch_starting {π σ : Type} [Graphics σ] {name : String} (line : Nat) (assets : Assets)
    (time : Int) {st : Stage π σ} (h : st.registry.contains name = true) :
    ∃ st', CommandTable.standard.dispatch (starting name line) assets time st = (.ok .goOn, st') ∧
      (∀ n, st'.registry.get? n = (st.registry.get? n).map fun e =>
        if n = name then { e with status := .running time } else e) ∧
      st'.timeline = st.timeline := by
  have hfeasible : (starting name line).deed.Feasible assets st := h
  rw [CommandTable.dispatch_eq_carryOut]
  rcases (starting name line).deed.carryOut_cases assets time st with
    ⟨-, verdict, st', hdone⟩ | ⟨hinfeasible, -⟩
  · obtain ⟨rfl, hregistry, htimeline⟩ := Deed.of_carryOut_ask hdone
    exact ⟨st', hdone, hregistry, htimeline⟩
  · exact absurd hfeasible hinfeasible

end Command

namespace Manifest

/-- Of the declarations of a name, one is the last. -/
theorem exists_last_declaration {parts : List PartSpec} {name : String}
    (h : ∃ p ∈ parts, p.name = name) :
    ∃ front p back, parts = front ++ p :: back ∧ p.name = name ∧ ∀ q ∈ back, q.name ≠ name := by
  induction parts with
  | nil => simp at h
  | cons p rest ih =>
    by_cases hlater : ∃ q ∈ rest, q.name = name
    · obtain ⟨front, q, back, rfl, hq, hback⟩ := ih hlater
      exact ⟨p :: front, q, back, rfl, hq, hback⟩
    · obtain ⟨q, hq, hname⟩ := h
      rcases List.mem_cons.1 hq with rfl | hq
      · exact ⟨[], q, rest, rfl, hname, fun x hx heq => hlater ⟨x, hx, heq⟩⟩
      · exact absurd ⟨q, hq, hname⟩ hlater

/-- No document declares a part under an empty name. -/
theorem name_ne_of_ofElement {root : Xml.Element} {m : Manifest} (h : ofElement root = .ok m) :
    ∀ p ∈ m.parts, p.name ≠ "" := by
  obtain ⟨-, -, hparts⟩ := ofElement_eq_ok_iff.1 h
  have hdeclared : List.Forall₂ (fun p e => p.name ≠ "" ∧ Declares e p) m.parts
      (root.named "part") :=
    hparts.flip.imp fun _ _ h => ⟨(Xml.Element.trimmed_of_value? h.name).1, h⟩
  exact ((List.forall₂_and_left _ _).1 hdeclared).1

/-- How scripts get at the parts of a manifest that have this name. -/
structure Addressed (m : Manifest) (name : String) : Prop where
  /-- The line that starts the part is read as the command to do so exactly if the name is a word
  without a semicolon in it. -/
  read : ∀ line, Script.Line.parse line ("0 START_PART " ++ name) =
    .command (Command.starting name line) ↔ Script.Addressable name
  /-- No other line gets at a part that this one does not get at. -/
  unread : ¬ Script.Addressable name → ∀ line raw c, Script.Line.parse line raw = .command c →
    name ∉ c.args
  /-- Once the parts are registered, the command starts the one that was declared last under the
  name, and does nothing else. -/
  starts : ∀ (π σ : Type) [Graphics σ] (build : Scene → π) (r : Registry π) (timeline : Timeline)
    (w : World σ) (assets : Assets) (time : Int) (line : Nat),
    ∃ r' events st' front p back scene, m.enroll build r = (.ok m.parts.length, r', events) ∧
      CommandTable.standard.dispatch (Command.starting name line) assets time ⟨r', timeline, w⟩ =
        (.ok .goOn, st') ∧
      m.parts = front ++ p :: back ∧ p.name = name ∧ (∀ q ∈ back, q.name ≠ name) ∧
      p.Builds scene ∧ st'.registry.get? name =
        some ⟨build scene, { target := p.target, clear := p.clear }, .running time⟩ ∧
      (∀ n, n ≠ name → st'.registry.get? n = r'.get? n) ∧ st'.timeline = timeline

theorem addressed_of_ofElement {root : Xml.Element} {m : Manifest} (h : ofElement root = .ok m)
    {p : PartSpec} (hp : p ∈ m.parts) : Addressed m p.name := by
  have hfilled := name_ne_of_ofElement h
  have hname : p.name ≠ "" := hfilled p hp
  refine ⟨fun line => Command.parse_starting_iff hname, fun hunaddressable line raw c hparse hmem =>
    hunaddressable (Script.addressable_of_mem_args hparse hmem), ?_⟩
  intro π σ _ build r timeline w assets time line
  obtain ⟨front, q, back, hsplit, hq, hlast⟩ := exists_last_declaration ⟨p, hp, rfl⟩
  let r' := r.run (m.parts.map (·.enrolling build))
  obtain ⟨events, henroll⟩ : ∃ events, enrollAll build r [] m.parts = (.ok (), r', events) :=
    exists_enrollAll hfilled r []
  have hentry : r'.get? p.name = some ⟨build q.scene, q.settings, .idle⟩ := by
    have hback : ∀ x ∈ back, x.name ≠ "" := fun x hx => hfilled x (by simp [hsplit, hx])
    show (r.run (m.parts.map (·.enrolling build))).get? p.name = _
    rw [hsplit, ← hq]
    exact r.get?_run_enrolling_last (hq ▸ hname) hback (hq ▸ hlast)
  have hcontains : (⟨r', timeline, w⟩ : Stage π σ).registry.contains p.name = true :=
    Registry.contains_iff.2 ⟨_, hentry⟩
  obtain ⟨st', hdispatch, hregistry, htimeline⟩ :=
    Command.dispatch_starting line assets time hcontains
  refine ⟨r', events, st', front, q, back, q.scene, ?_, hdispatch, hsplit, hq, hlast,
    q.builds_scene, ?_, fun n hn => ?_, htimeline⟩
  · rw [enroll, henroll]
    rfl
  · rw [hregistry, hentry, PartSpec.settings]
    simp
  · rw [hregistry]
    simp [hn]

/-- The name of one part is a word, and that of the other is not, for all its bracket. -/
theorem addressed_of_ofElement_word :
    let tag (name : String) (children : List Xml.Node) : Xml.Node := .element ⟨"", name⟩ [] children
    let root : Xml.Element := ⟨⟨"", "demo"⟩, [], [
      tag "part" [tag "name" [.text "<x y>"]], tag "part" [tag "name" [.text " b1 "]]]⟩
    let word : PartSpec := { name := "b1" }
    let m : Manifest := { parts := [{ name := "<x y>" }, word] }
    ofElement root = .ok m ∧ word ∈ m.parts ∧ Script.Addressable word.name ∧
      ¬ Script.Addressable "<x y>" ∧ Addressed m word.name := by
  intro tag root word m
  have hread : ofElement root = .ok m := by decide +kernel
  have hmem : word ∈ m.parts := by simp [m]
  exact ⟨hread, hmem, by decide +kernel, by decide +kernel, addressed_of_ofElement hread hmem⟩

/-- A part whose name has a blank in it is registered, but the line to start it names two parts. -/
theorem not_addressed_blank :
    let tag (name : String) (children : List Xml.Node) : Xml.Node := .element ⟨"", name⟩ [] children
    let root : Xml.Element := ⟨⟨"", "demo"⟩, [], [tag "part" [tag "name" [.text "a b"]]]⟩
    let m : Manifest := { parts := [{ name := "a b" }] }
    let st : Stage Scene Rehearsal := ⟨(m.enroll id .empty).2.1, {}, { gfx := {} }⟩
    let c : Command := ⟨0, .startPart, ["a", "b"], 1⟩
    ofElement root = .ok m ∧ st.registry.contains "a b" = true ∧
      Script.Line.parse 1 "0 START_PART a b" = .command c ∧ c ≠ Command.starting "a b" 1 ∧
      CommandTable.standard.dispatch c {} 0 st = (.error (.arity .startPart), st) ∧
      st.registry.runningNames = [] := by
  intro tag root m st c
  exact ⟨by decide +kernel, by decide +kernel, by decide +kernel, by decide, rfl,
    by decide +kernel⟩

end Manifest

end DemoReel
