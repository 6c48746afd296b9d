import Mathlib.Data.List.TakeDrop
import DemoReel.Proofs.Effect.Grammar
import DemoReel.Proofs.Fallible
import DemoReel.Proofs.Script.Tokens
import DemoReel.Proofs.Text.Pieces

/-!
# Colors with white space in them

White space around the components of a color is left out of account, and a component that has white
space inside is no number (`Number.isSolid_of_readBinary32`). But a command never sees its text:
it sees the token, from which all white space is gone. Main statement: the token means what the text
means unless the only fault of the text is white space inside of components
(`Script.tokenize_bracketed`).
-/

namespace DemoReel

/-! ## Numbers have no white space -/

namespace Number

open Text (IsSolid)

theorem isSolid_of_digits {ds : List Char} (h : ∀ c ∈ ds, (digit? c).isSome = true) :
    IsSolid ds := by
  intro c hc
  obtain ⟨d, hd⟩ := Option.isSome_iff_exists.1 (h c hc)
  exact Text.isBlank_eq_false_of_isDigit (digit?_eq_some_iff.1 hd).1

/-- Behind its leading digits a text is as solid as what follows them. -/
theorem isSolid_of_spanDigits {cs : List Char} (h : IsSolid (spanDigits cs).2) : IsSolid cs := by
  rw [spanDigits, List.span_eq_takeWhile_dropWhile] at h
  rw [← List.takeWhile_append_dropWhile (p := fun c => (digit? c).isSome) (l := cs)]
  exact (isSolid_of_digits (List.all_eq_true.1 List.all_takeWhile)).append h

theorem isSolid_of_exponentPart? {cs : List Char} {e : Int} (h : exponentPart? cs = some e) :
    IsSolid cs := by
  have hsigned {negative : Bool} {ds : List Char} {e : Int}
      (h : (if ds.isEmpty ∨ ds.any (fun d => (digit? d).isNone) then none
        else some (if negative then -(exponentValue ds : Int) else exponentValue ds)) = some e) :
      IsSolid ds := by
    split at h
    · cases h
    · next hdigits =>
      refine isSolid_of_digits fun c hc => ?_
      cases hdigit : digit? c with
      | some d => rfl
      | none => exact absurd (.inr (List.any_eq_true.2 ⟨c, hc, by simp [hdigit]⟩)) hdigits
  cases cs with
  | nil => exact nofun
  | cons c cs =>
    rw [exponentPart?] at h
    split at h
    · next hmarker =>
      have hc : Text.isBlank c = false := by
        rcases hmarker with rfl | rfl <;> decide
      refine .cons hc ?_
      dsimp only at h
      split at h
      · exact .cons (by decide) (hsigned h)
      · exact .cons (by decide) (hsigned h)
      · exact hsigned h
    · cases h

theorem isSolid_of_finiteMagnitude? {cs : List Char} {m : Magnitude}
    (h : finiteMagnitude? cs = some m) : IsSolid cs := by
  have hexponent {void : Prop} [Decidable void] {rest : List Char} {f : Int → Magnitude}
      (h : (if void then none else (exponentPart? rest).map f) = some m) : IsSolid rest := by
    split at h
    · cases h
    · obtain ⟨e, he, -⟩ := Option.map_eq_some_iff.1 h
      exact isSolid_of_exponentPart? he
  unfold finiteMagnitude? at h
  dsimp only at h
  refine isSolid_of_spanDigits ?_
  split at h
  · next more hmore =>
    rw [hmore]
    exact .cons (by decide) (isSolid_of_spanDigits (hexponent h))
  · exact hexponent h

theorem isSolid_of_magnitude? {cs : List Char} {m : Magnitude} (h : magnitude? cs = some m) :
    IsSolid cs := by
  unfold magnitude? at h
  dsimp only at h
  split at h
  · next hname =>
    refine Text.isSolid_of_map_toLower ?_
    rcases hname with hname | hname <;> rw [hname] <;> exact Text.isSolid_of_all (by decide)
  · split at h
    · next hname =>
      refine Text.isSolid_of_map_toLower ?_
      rw [hname]
      exact Text.isSolid_of_all (by decide)
    · exact isSolid_of_finiteMagnitude? h

/-- What is read as a number has no white space in it. -/
theorem isSolid_of_readBinary32 {cs : List Char} {x : Float32} (h : readBinary32 cs = .ok x) :
    IsSolid cs := by
  have helim {ds : List Char} {f : Magnitude → Except DecimalFault Float32}
      (h : (magnitude? ds).elim (.error .invalid) f = .ok x) : IsSolid ds := by
    cases hm : magnitude? ds with
    | none =>
      rw [hm] at h
      cases h
    | some m => exact isSolid_of_magnitude? hm
  unfold readBinary32 at h
  split at h
  · cases h
  · exact .cons (by decide) (helim h)
  · exact .cons (by decide) (helim h)
  · exact helim h

end Number

/-! ## Components -/

namespace Script

open Text (IsSolid squeeze)

/-- The number that stands between two commas. -/
def component? (part : List Char) : Option Float32 :=
  (Number.readBinary32 (Text.trim part)).toOption

/-- Only the components of a color decide what it is. -/
theorem exists_color?_bracketed : ∃ ofComponents : List Float32 → Option Color,
    ∀ body : List Char, color? (String.ofList ('<' :: body ++ ['>'])) =
      ((Text.splitOn ',' body).mapM component?).bind ofComponents := by
  -- The function is what `color?` does with its components; it is found by unification.
  apply Exists.intro
  intro body
  have hinner : bracketed? ('<' :: body ++ ['>']) = some body := by
    simp [bracketed?]
  rw [color?, String.toList_ofList, hinner]
  rfl

/-- White space around a component is of no account. -/
theorem component?_squeeze {part : List Char} (h : IsSolid (Text.trim part)) :
    component? (squeeze part) = component? part := by
  rw [component?, component?, Text.trim_of_solid (Text.isSolid_squeeze part), ← Text.squeeze_trim,
    Text.squeeze_of_solid h]

/-- White space inside a component leaves no number. -/
theorem component?_eq_none {part : List Char} (h : ¬ IsSolid (Text.trim part)) :
    component? part = none := by
  cases hread : Number.readBinary32 (Text.trim part) with
  | error why => rw [component?, hread]; rfl
  | ok x => exact absurd (Number.isSolid_of_readBinary32 hread) h

theorem mapM_component?_squeeze {parts : List (List Char)}
    (h : ∀ part ∈ parts, IsSolid (Text.trim part)) :
    (parts.map squeeze).mapM component? = parts.mapM component? := by
  induction parts with
  | nil => rfl
  | cons part parts ih =>
    obtain ⟨hpart, hparts⟩ := List.forall_mem_cons.1 h
    rw [List.map_cons, List.mapM_cons, List.mapM_cons, component?_squeeze hpart, ih hparts]

/-! ## Literals and their tokens -/

/-- What a flash makes of a token. -/
theorem ofArgs_flash {w : Window} {start duration : String} (hw : w.SpelledBy start duration)
    (token : String) : EffectDraft.ofArgs ["flash", start, duration, token] =
      (color? token).elim (.error (.invalidColor token)) fun c => .ok ⟨w, .flash c⟩ := by
  cases hcolor : color? token with
  | some c => exact EffectDraft.ofArgs_eq_ok_iff.2 (.mk rfl hw (.flash hcolor))
  | none =>
    have hcolorArg : EffectDraft.colorArg .firstColor [token] = .error (.invalidColor token) := by
      simp only [EffectDraft.colorArg, EffectDraft.required, bind, Except.bind, hcolor]
    have hcontent : EffectDraft.contentArgs [token] .flash = .error (.invalidColor token) := by
      show EffectDraft.colorArg _ _ >>= _ = _
      rw [hcolorArg]
      rfl
    show EffectDraft.windowArgs [start, duration, token] >>= _ = _
    rw [EffectDraft.windowArgs_eq_ok_iff.2 ⟨start, duration, rfl, hw⟩]
    show EffectDraft.contentArgs [token] .flash >>= _ = _
    rw [hcontent]
    rfl

/-- A literal is read through its token. The two say different things exactly where a component has
white space inside and the token is a color all the same. -/
theorem tokenize_bracketed {body : List Char} (h : '>' ∉ body) :
    let literal := String.ofList ('<' :: body ++ ['>'])
    let token := String.ofList ('<' :: squeeze body ++ ['>'])
    let solid := ∀ part ∈ Text.splitOn ',' body, IsSolid (Text.trim part)
    tokenize literal = [token] ∧
      (color? token = color? literal ↔ solid ∨ color? token = none) ∧
      (¬ solid → color? literal = none) ∧
      ∀ {w : Window} {start duration : String}, w.SpelledBy start duration →
        EffectDraft.ofArgs (["flash", start, duration] ++ tokenize literal) =
          (color? token).elim (.error (.invalidColor token)) fun c => .ok ⟨w, .flash c⟩ := by
  intro literal token solid
  have htokenize : tokenize literal = [token] := by
    rw [tokenize, String.toList_ofList, tokens_bracketed h]
    rfl
  obtain ⟨ofComponents, hcolor⟩ := exists_color?_bracketed
  have htoken : color? token =
      (((Text.splitOn ',' body).map squeeze).mapM component?).bind ofComponents := by
    rw [← Text.splitOn_squeeze (by decide)]
    exact hcolor (squeeze body)
  have hbroken (hsolid : ¬ solid) : color? literal = none := by
    obtain ⟨part, hmem, hpart⟩ : ∃ part ∈ Text.splitOn ',' body, ¬ IsSolid (Text.trim part) := by
      simpa [solid] using hsolid
    rw [hcolor, mapM_eq_none hmem (component?_eq_none hpart)]
    rfl
  refine ⟨htokenize, ⟨fun hsame => ?_, fun hor => ?_⟩, hbroken, fun hw => ?_⟩
  · by_cases hsolid : solid
    · exact .inl hsolid
    · exact .inr (hsame.trans (hbroken hsolid))
  · by_cases hsolid : solid
    · rw [htoken, mapM_component?_squeeze hsolid]
      exact (hcolor body).symm
    · rw [hor.resolve_left hsolid, hbroken hsolid]
  · rw [htokenize]
    exact ofArgs_flash hw token

/-- White space on all sides of the components. -/
theorem tokenize_bracketed_around :
    let literal := "< 1 ,0.5,\t-0.25 >"
    '>' ∉ " 1 ,0.5,\t-0.25 ".toList ∧ (⟨0, 1000⟩ : Window).SpelledBy "0" "1s" ∧
      tokenize literal = ["<1,0.5,-0.25>"] ∧
      color? "<1,0.5,-0.25>" = color? literal ∧ color? literal = some ⟨1, 0.5, -0.25, 1⟩ ∧
      EffectDraft.ofArgs (["flash", "0", "1s"] ++ tokenize literal) =
        .ok ⟨⟨0, 1000⟩, .flash ⟨1, 0.5, -0.25, 1⟩⟩ := by
  intro literal
  have hbody : '>' ∉ " 1 ,0.5,\t-0.25 ".toList := by decide
  have hw : (⟨0, 1000⟩ : Window).SpelledBy "0" "1s" := ⟨rfl, rfl, by decide, by decide⟩
  obtain ⟨htokenize, hsame, -, hflash⟩ := tokenize_bracketed hbody
  have hall : (Text.splitOn ',' " 1 ,0.5,\t-0.25 ".toList).all
      (fun part => (Text.trim part).all fun c => !Text.isBlank c) = true := by decide
  have hsolid : ∀ part ∈ Text.splitOn ',' " 1 ,0.5,\t-0.25 ".toList, IsSolid (Text.trim part) :=
    fun part hpart => Text.isSolid_of_all (List.all_eq_true.1 hall part hpart)
  have hliteral : color? literal = some ⟨1, 0.5, -0.25, 1⟩ := by decide +kernel
  have htoken := (hsame.2 (.inl hsolid)).trans hliteral
  have hread := hflash hw
  rw [htoken] at hread
  exact ⟨hbody, hw, htokenize, htoken.trans hliteral.symm, hliteral, hread⟩

/-- Two numbers with a blank between them are no component, and the token has one number. -/
theorem tokenize_bracketed_inside :
    color? "<1 2,0,0>" = none ∧ tokenize "<1 2,0,0>" = ["<12,0,0>"] ∧
      color? "<12,0,0>" = some ⟨12, 0, 0, 1⟩ ∧
      Line.parse 1 "0 FX flash 0 1s <1 2,0,0>" =
        .command ⟨0, .effect, ["flash", "0", "1s", "<12,0,0>"], 1⟩ ∧
      EffectDraft.ofArgs ["flash", "0", "1s", "<12,0,0>"] =
        .ok ⟨⟨0, 1000⟩, .flash ⟨12, 0, 0, 1⟩⟩ := by
  decide +kernel

end Script

end DemoReel
