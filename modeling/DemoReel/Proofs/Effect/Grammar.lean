import DemoReel.Effect.Syntax
import DemoReel.Proofs.Fallible

/-!
# The grammar of effects

Which arguments describe an effect, and which effect they describe, said without a reader: every
relation here pairs a thing with the words that spell it. Main statement: the reader accepts what
the grammar spells and nothing else (`EffectDraft.ofArgs_eq_ok_iff`). What the reader says against
other arguments is never about a file (`EffectDraft.ofArgs_ne_resource`).
-/

namespace DemoReel

open Script (timestamp? color?)

/-! ## What is spelled by which words -/

/-- The word is a `t` with digits behind it and nothing else. -/
def TextureName.LooksLikeTarget (token : String) : Prop :=
  ∃ ds, ds ≠ [] ∧ token.toList = 't' :: ds ∧ ∀ c ∈ ds, c.isDigit = true

/-- An offscreen target is spelled by its name, and a file by any word that does not look like the
name of a target. -/
inductive TextureName.SpelledBy : TextureName → String → Prop where
  | target (i : Fin 4) : SpelledBy (.target (.offscreen i)) (Target.offscreen i).text
  | file {token : String} (other : ¬ LooksLikeTarget token) : SpelledBy (.file token) token

/-- A texture that may be left out: by no word at all, or by `0` or `-`. -/
inductive TextureName.SpelledOptionally : Option TextureName → List String → Prop where
  | left : SpelledOptionally none []
  | none {token : String} (void : token = "0" ∨ token = "-") : SpelledOptionally none [token]
  | some {token : String} {name : TextureName} (noColor : token.toList.head? ≠ some '<')
      (filled : ¬ (token = "0" ∨ token = "-")) (spelled : name.SpelledBy token) :
      SpelledOptionally (some name) [token]

/-- A window is spelled by its start and its duration. The duration is positive, and the end lies in
the time range. -/
structure Window.SpelledBy (w : Window) (start duration : String) : Prop where
  start : timestamp? start = some w.start
  duration : timestamp? duration = some w.duration
  positive : 0 < w.duration
  inRange : w.start + w.duration ≤ Number.maxInt64

/-- What stands after the window of an effect. -/
inductive EffectContent.SpelledBy : EffectContent TextureName String → List String → Prop where
  | negative : SpelledBy .negative []
  | whiteFlash : SpelledBy (.flash .white) []
  | flash {color : Color} {token : String} (isColor : color? token = some color) :
      SpelledBy (.flash color) [token]
  | fade {first second : Color} {firstTexture secondTexture : Option TextureName}
      {token token' : String} {texture texture' : List String}
      (isFirst : color? token = some first)
      (firstSpelled : TextureName.SpelledOptionally firstTexture texture)
      (isSecond : color? token' = some second)
      (secondSpelled : TextureName.SpelledOptionally secondTexture texture') :
      SpelledBy (.fade first firstTexture second secondTexture)
        (token :: texture ++ token' :: texture')
  | overlay {texture : TextureName} {token : String} {shader : Option String}
      (spelled : texture.SpelledBy token) :
      SpelledBy (.overlay texture shader) (token :: shader.toList)

/-- An effect is spelled by its kind, in letters of either case, its window and its content. -/
inductive EffectDraft.SpelledBy : EffectDraft → List String → Prop where
  | mk {window : Window} {content : EffectContent TextureName String}
      {kind start duration : String} {rest : List String}
      (isKind : String.ofList (kind.toList.map Char.toLower) = content.kind.text)
      (isWindow : window.SpelledBy start duration) (isContent : content.SpelledBy rest) :
      SpelledBy ⟨window, content⟩ (kind :: start :: duration :: rest)

/-! ## Single words -/

section

variable {token : String} {args rest : List String} {what : EffectArgument}

theorem EffectKind.ofText?_eq_some_iff {k : EffectKind} :
    EffectKind.ofText? token = some k ↔ token = k.text := by
  refine ⟨fun h => ?_, fun h => h ▸ EffectKind.ofText?_text k⟩
  unfold EffectKind.ofText? at h
  split at h <;> cases h <;> rfl

theorem Target.ofText?_eq_some_iff {t : Target} :
    Target.ofText? token = some t ↔ token = t.text := by
  refine ⟨fun h => ?_, fun h => h ▸ Target.ofText?_text t⟩
  unfold Target.ofText? at h
  split at h <;> cases h <;> rfl

/-- A color is written in angle brackets. -/
theorem Script.head?_of_color? {c : Color} (h : color? token = some c) :
    token.toList.head? = some '<' := by
  simp only [color?, Option.bind_eq_bind, Option.bind_eq_some_iff] at h
  obtain ⟨inner, hinner, -⟩ := h
  unfold bracketed? at hinner
  split at hinner
  · next htoken => rw [htoken]; rfl
  · cases hinner

namespace TextureName

theorem isRegister_iff : isRegister token = true ↔ LooksLikeTarget token := by
  have hdigit (c : Char) : (Number.digit? c).isSome = true ↔ c.isDigit = true := by
    simp only [Option.isSome_iff_exists, Number.digit?_eq_some_iff, exists_and_left, exists_eq',
      and_true]
  unfold isRegister LooksLikeTarget
  split
  · next d ds htoken =>
    simp only [List.all_eq_true, hdigit, htoken, List.cons.injEq, true_and]
    exact ⟨fun h => ⟨d :: ds, by simp, rfl, h⟩, fun ⟨_, _, heq, h⟩ => heq ▸ h⟩
  · next hother =>
    refine ⟨fun h => (nomatch h), fun ⟨ds, hds, htoken, _⟩ => ?_⟩
    obtain ⟨d, ds, rfl⟩ := List.exists_cons_of_ne_nil hds
    exact absurd htoken (hother d ds)

theorem looksLikeTarget_text (i : Fin 4) : LooksLikeTarget (Target.offscreen i).text := by
  rw [← isRegister_iff]
  revert i
  decide

theorem ofToken_eq_ok_iff {name : TextureName} :
    ofToken token = .ok name ↔ name.SpelledBy token := by
  unfold ofToken
  by_cases hlooks : isRegister token = true
  · rw [if_pos hlooks]
    constructor
    · intro h
      split at h
      · next t ht =>
        cases h
        rw [Target.ofText?_eq_some_iff.1 ht] at hlooks ⊢
        cases t with
        | offscreen i => exact .target i
        | framebuffer => exact absurd hlooks (by decide)
      · cases h
    · rintro (i | other)
      · rw [Target.ofText?_text]
      · exact absurd (isRegister_iff.1 hlooks) other
  · rw [if_neg hlooks]
    constructor
    · intro h
      cases h
      exact .file (mt isRegister_iff.2 hlooks)
    · rintro (i | _)
      · exact absurd (isRegister_iff.2 (looksLikeTarget_text i)) hlooks
      · rfl

theorem ofToken?_eq_ok_iff {t : Option TextureName} (h : token.toList.head? ≠ some '<') :
    ofToken? token = .ok t ↔ SpelledOptionally t [token] := by
  unfold ofToken?
  by_cases hvoid : token = "0" ∨ token = "-"
  · rw [if_pos hvoid]
    constructor
    · intro h
      cases h
      exact .none hvoid
    · rintro (_ | _ | ⟨_, filled, _⟩)
      · rfl
      · exact absurd hvoid filled
  · rw [if_neg hvoid]
    constructor
    · intro ht
      cases hname : ofToken token with
      | error e => rw [hname] at ht; cases ht
      | ok name =>
        rw [hname] at ht
        cases ht
        exact .some h hvoid (ofToken_eq_ok_iff.1 hname)
    · rintro (_ | void | ⟨_, _, spelled⟩)
      · exact absurd void hvoid
      · rw [ofToken_eq_ok_iff.2 spelled]
        rfl

end TextureName

end

/-! ## The reader against the grammar -/

namespace EffectDraft

variable {α β : Type} {token : String} {args rest : List String} {what : EffectArgument}

theorem required_eq_ok_iff :
    required what args = .ok (token, rest) ↔ args = token :: rest := by
  cases args with
  | nil => simp [required]
  | cons first others => simp [required]

theorem timeArg_eq_ok_iff {t : Int} :
    timeArg what args = .ok (t, rest) ↔
      ∃ token, args = token :: rest ∧ timestamp? token = some t := by
  simp only [timeArg, bind_eq_ok_iff, Prod.exists, required_eq_ok_iff]
  refine exists_congr fun token => ?_
  cases timestamp? token <;> simp [and_comm, and_assoc]

theorem colorArg_eq_ok_iff {c : Color} :
    colorArg what args = .ok (c, rest) ↔
      ∃ token, args = token :: rest ∧ color? token = some c := by
  simp only [colorArg, bind_eq_ok_iff, Prod.exists, required_eq_ok_iff]
  refine exists_congr fun token => ?_
  cases color? token <;> simp [and_comm, and_assoc]

theorem kindArg_eq_ok_iff {k : EffectKind} :
    kindArg args = .ok (k, rest) ↔
      ∃ token, args = token :: rest ∧ String.ofList (token.toList.map Char.toLower) = k.text := by
  simp only [kindArg, bind_eq_ok_iff, Prod.exists, required_eq_ok_iff,
    ← EffectKind.ofText?_eq_some_iff]
  refine exists_congr fun token => ?_
  cases EffectKind.ofText? _ <;> simp [and_comm, and_assoc]

theorem windowArgs_eq_ok_iff {w : Window} :
    windowArgs args = .ok (w, rest) ↔
      ∃ start duration, args = start :: duration :: rest ∧ w.SpelledBy start duration := by
  simp only [windowArgs, bind_eq_ok_iff, Prod.exists, timeArg_eq_ok_iff]
  constructor
  · rintro ⟨s, others, ⟨start, rfl, hs⟩, d, others', ⟨duration, rfl, hd⟩, h⟩
    split at h
    · cases h
    · next hzero =>
      split at h
      · cases h
      · next hrange =>
        cases h
        have hnonneg := Script.timestamp?_nonneg hd
        exact ⟨start, duration, rfl, hs, hd, by dsimp only; omega, by dsimp only; omega⟩
  · rintro ⟨start, duration, rfl, hs, hd, hpositive, hrange⟩
    refine ⟨w.start, _, ⟨start, rfl, hs⟩, w.duration, rest, ⟨duration, rfl, hd⟩, ?_⟩
    rw [if_neg (by omega), if_neg (by omega)]

/-- No texture is read where nothing or a color follows. -/
theorem optionalTexture_eq_ok_iff {t : Option TextureName} :
    optionalTexture args = .ok (t, rest) ↔
      ∃ front, args = front ++ rest ∧ TextureName.SpelledOptionally t front ∧
        (front = [] → ∀ token ∈ rest.head?, token.toList.head? = some '<') := by
  cases args with
  | nil =>
    simp only [optionalTexture, Except.ok.injEq, Prod.mk.injEq, List.nil_eq, List.append_eq_nil_iff]
    constructor
    · rintro ⟨rfl, rfl⟩
      exact ⟨[], ⟨rfl, rfl⟩, .left, by simp⟩
    · rintro ⟨_, ⟨rfl, rfl⟩, ⟨⟩, -⟩
      exact ⟨rfl, rfl⟩
  | cons token others =>
    simp only [optionalTexture]
    by_cases hcolor : token.toList.head? = some '<'
    · rw [if_pos hcolor]
      simp only [Except.ok.injEq, Prod.mk.injEq]
      constructor
      · rintro ⟨rfl, rfl⟩
        exact ⟨[], rfl, .left, by simpa using hcolor⟩
      · rintro ⟨front, hsplit, ht, -⟩
        cases ht with
        | left => exact ⟨rfl, hsplit⟩
        | none void =>
          cases hsplit
          rcases void with rfl | rfl <;> exact absurd hcolor (by decide)
        | some noColor =>
          cases hsplit
          exact absurd hcolor noColor
    · rw [if_neg hcolor]
      constructor
      · intro h
        cases ht : TextureName.ofToken? token with
        | error e => rw [ht] at h; cases h
        | ok name =>
          rw [ht] at h
          cases h
          exact ⟨[token], rfl, (TextureName.ofToken?_eq_ok_iff hcolor).1 ht, by simp⟩
      · rintro ⟨front, hsplit, ht, hnext⟩
        cases front with
        | nil =>
          cases hsplit
          exact absurd (hnext rfl token rfl) hcolor
        | cons first others' =>
          obtain rfl : others' = [] := by cases ht <;> rfl
          cases hsplit
          rw [(TextureName.ofToken?_eq_ok_iff hcolor).2 ht]
          rfl

/-- The content is read to the end of the arguments exactly if they spell it. -/
theorem contentArgs_eq_ok_iff {k : EffectKind} {content : EffectContent TextureName String} :
    contentArgs args k = .ok (content, []) ↔ content.kind = k ∧ content.SpelledBy args := by
  cases k with
  | negative =>
    simp only [contentArgs, Except.ok.injEq, Prod.mk.injEq]
    constructor
    · rintro ⟨rfl, rfl⟩
      exact ⟨rfl, .negative⟩
    · rintro ⟨hk, h⟩
      cases h with
      | negative => exact ⟨rfl, rfl⟩
      | _ => cases hk
  | flash =>
    cases args with
    | nil =>
      simp only [contentArgs, Except.ok.injEq, Prod.mk.injEq, and_true]
      constructor
      · rintro rfl
        exact ⟨rfl, .whiteFlash⟩
      · rintro ⟨hk, h⟩
        cases h with
        | whiteFlash => rfl
        | negative => cases hk
    | cons token others =>
      simp only [contentArgs, bind_eq_ok_iff, Prod.exists, colorArg_eq_ok_iff]
      constructor
      · rintro ⟨color, rest, ⟨first, hsplit, hcolor⟩, h⟩
        cases hsplit
        cases h
        exact ⟨rfl, .flash hcolor⟩
      · rintro ⟨hk, h⟩
        cases h with
        | flash hcolor => exact ⟨_, [], ⟨token, rfl, hcolor⟩, rfl⟩
        | _ => cases hk
  | fade =>
    simp only [contentArgs, bind_eq_ok_iff, Prod.exists, colorArg_eq_ok_iff,
      optionalTexture_eq_ok_iff]
    constructor
    · rintro ⟨first, _, ⟨token, rfl, hfirst⟩, t, _, ⟨front, rfl, ht, -⟩, second, _,
        ⟨token', rfl, hsecond⟩, u, rest, ⟨front', rfl, hu, -⟩, h⟩
      cases h
      rw [List.append_nil]
      exact ⟨rfl, .fade hfirst ht hsecond hu⟩
    · rintro ⟨hk, h⟩
      cases h with
      | @fade first second t u token token' front front' hfirst ht hsecond hu =>
        refine ⟨first, _, ⟨token, rfl, hfirst⟩, t, token' :: front', ⟨front, rfl, ht, fun _ => ?_⟩,
          second, front', ⟨token', rfl, hsecond⟩, u, [],
          ⟨front', (List.append_nil front').symm, hu, by simp⟩, rfl⟩
        simpa using Script.head?_of_color? hsecond
      | _ => cases hk
  | overlay =>
    simp only [contentArgs, bind_eq_ok_iff, Prod.exists, required_eq_ok_iff,
      TextureName.ofToken_eq_ok_iff]
    constructor
    · rintro ⟨token, rest, rfl, texture, htexture, h⟩
      simp only [Except.ok.injEq, Prod.mk.injEq] at h
      obtain ⟨rfl, hrest⟩ := h
      cases rest with
      | nil => exact ⟨rfl, .overlay htexture⟩
      | cons shader others =>
        obtain rfl : others = [] := hrest
        exact ⟨rfl, .overlay htexture⟩
    · rintro ⟨hk, h⟩
      cases h with
      | @overlay texture token shader htexture =>
        refine ⟨token, shader.toList, rfl, texture, htexture, ?_⟩
        cases shader <;> rfl
      | _ => cases hk

theorem ofArgs_eq_ok_iff {draft : EffectDraft} :
    ofArgs args = .ok draft ↔ draft.SpelledBy args := by
  simp only [ofArgs, bind_eq_ok_iff, Prod.exists, kindArg_eq_ok_iff, windowArgs_eq_ok_iff]
  constructor
  · rintro ⟨k, _, ⟨kind, rfl, hk⟩, window, rest, ⟨start, duration, rfl, hwindow⟩, content, last,
      hcontent, h⟩
    cases last with
    | cons token others => cases h
    | nil =>
      cases h
      obtain ⟨rfl, hspelled⟩ := contentArgs_eq_ok_iff.1 hcontent
      exact .mk hk hwindow hspelled
  · rintro ⟨hk, hwindow, hcontent⟩
    exact ⟨_, _, ⟨_, rfl, hk⟩, _, _, ⟨_, _, rfl, hwindow⟩, _, [],
      contentArgs_eq_ok_iff.2 ⟨rfl, hcontent⟩, rfl⟩

example : ofArgs ["Overlay", "250", "2s", "t2", "glow.frag"] =
    .ok ⟨⟨250, 2000⟩, .overlay (.target (.offscreen 2)) (some "glow.frag")⟩ := rfl

/-! ## What the reader says against arguments -/

section

variable {e : GraphicsError}

theorem bind_ne_resource {x : Except EffectError α} {f : α → Except EffectError β}
    (hx : x ≠ .error (.resource e)) (hf : ∀ a, f a ≠ .error (.resource e)) :
    x >>= f ≠ .error (.resource e) := by
  cases x with
  | error why => exact fun h => hx (by cases h; rfl)
  | ok a => exact hf a

theorem required_ne_resource : required what args ≠ .error (.resource e) := by
  cases args <;> simp [required]

theorem timeArg_ne_resource : timeArg what args ≠ .error (.resource e) := by
  refine bind_ne_resource required_ne_resource fun (token, rest) => ?_
  dsimp only
  split <;> simp

theorem colorArg_ne_resource : colorArg what args ≠ .error (.resource e) := by
  refine bind_ne_resource required_ne_resource fun (token, rest) => ?_
  dsimp only
  split <;> simp

theorem ofToken_ne_resource : TextureName.ofToken token ≠ .error (.resource e) := by
  unfold TextureName.ofToken
  split
  · split <;> simp
  · simp

theorem optionalTexture_ne_resource : optionalTexture args ≠ .error (.resource e) := by
  unfold optionalTexture TextureName.ofToken?
  split
  · simp
  · next token rest =>
    split
    · simp
    · split
      · simp [Except.map]
      · cases htoken : TextureName.ofToken token with
        | error why =>
          intro h
          cases h
          exact ofToken_ne_resource htoken
        | ok name => simp [Except.map]

theorem kindArg_ne_resource : kindArg args ≠ .error (.resource e) := by
  refine bind_ne_resource required_ne_resource fun (token, rest) => ?_
  dsimp only
  split <;> simp

theorem windowArgs_ne_resource : windowArgs args ≠ .error (.resource e) := by
  refine bind_ne_resource timeArg_ne_resource fun (start, rest) => ?_
  refine bind_ne_resource timeArg_ne_resource fun (duration, rest) => ?_
  dsimp only
  split
  · simp
  · split <;> simp

theorem contentArgs_ne_resource {k : EffectKind} : contentArgs args k ≠ .error (.resource e) := by
  cases k with
  | negative => simp [contentArgs]
  | flash =>
    cases args with
    | nil => simp [contentArgs]
    | cons => exact bind_ne_resource colorArg_ne_resource fun _ => by simp
  | fade =>
    refine bind_ne_resource colorArg_ne_resource fun (first, rest) => ?_
    refine bind_ne_resource optionalTexture_ne_resource fun (firstTexture, rest) => ?_
    refine bind_ne_resource colorArg_ne_resource fun (second, rest) => ?_
    exact bind_ne_resource optionalTexture_ne_resource fun _ => by simp
  | overlay =>
    refine bind_ne_resource required_ne_resource fun (token, rest) => ?_
    exact bind_ne_resource ofToken_ne_resource fun _ => by simp

theorem ofArgs_ne_resource : ofArgs args ≠ .error (.resource e) := by
  refine bind_ne_resource kindArg_ne_resource fun (kind, rest) => ?_
  refine bind_ne_resource windowArgs_ne_resource fun (window, rest) => ?_
  refine bind_ne_resource contentArgs_ne_resource fun (content, rest) => ?_
  cases rest <;> simp

end

/-- Arguments spell one effect at most. -/
theorem SpelledBy.unique {draft draft' : EffectDraft} (h : draft.SpelledBy args)
    (h' : draft'.SpelledBy args) : draft = draft' :=
  Except.ok.inj ((ofArgs_eq_ok_iff.2 h).symm.trans (ofArgs_eq_ok_iff.2 h'))

end EffectDraft

end DemoReel
