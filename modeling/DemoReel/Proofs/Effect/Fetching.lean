import DemoReel.Effect.Loading
import DemoReel.Proofs.Effect.Grammar
import DemoReel.Proofs.Graphics.Record

/-!
# What an effect command fetches

An effect is read to the end before anything is loaded, and then its files are loaded one after the
other until one of them fails (`Fetches`). Main statement: arguments that spell no effect are
refused and leave the world alone; for all others, the loads, the error and the effect follow from
what the arguments spell and from what the backend answers (`Effect.ofArgs_settles`).
-/

namespace DemoReel

/-! ## Files and handles -/

/-- A file that an effect needs. -/
inductive Resource where
  | texture (name : String)
  | shader (name : String)
  deriving DecidableEq, Repr

/-- The handle of a file that is loaded. -/
inductive Handle where
  | texture (id : TextureId)
  | shader (id : ShaderId)
  deriving DecidableEq, Repr

namespace Resource

/-- The name as the script has it. -/
def name : Resource → String
  | .texture name | .shader name => name

/-- The call that loads the file. -/
def call (assets : Assets) : Resource → Call
  | .texture name => .loadTexture (assets.resolve name)
  | .shader name => .loadShader (assets.resolve name) .fragment

/-- What a backend answers when it is asked for the file. -/
def answer {σ : Type} [Graphics σ] (assets : Assets) (w : World σ) :
    Resource → Except GraphicsError Handle
  | .texture name => (w.call (.loadTexture (assets.resolve name))).1.map .texture
  | .shader name => (w.call (.loadShader (assets.resolve name) .fragment)).1.map .shader

end Resource

/-- The files that a texture name stands for: none for a target. -/
def TextureName.resources : TextureName → List Resource
  | .target _ => []
  | .file name => [.texture name]

namespace EffectContent

/-- The files of an effect, in the order of the arguments. -/
def resources : EffectContent TextureName String → List Resource
  | .negative | .flash _ => []
  | .fade _ t _ u =>
    t.toList.flatMap TextureName.resources ++ u.toList.flatMap TextureName.resources
  | .overlay t shader => t.resources ++ shader.toList.map .shader

/-- The textures of an effect. -/
def textures {τ ρ : Type} : EffectContent τ ρ → List τ
  | .negative | .flash _ => []
  | .fade _ t _ u => t.toList ++ u.toList
  | .overlay t _ => [t]

end EffectContent

/-! ## What becomes of names with the handles of their files -/

/-- A target stays what it is, and a file becomes its handle. -/
inductive TextureName.Filled : TextureName → List Handle → Texture → Prop where
  | target (t : Target) : Filled (.target t) [] (.target t)
  | file (name : String) (id : TextureId) : Filled (.file name) [.texture id] (.loaded id)

/-- No texture stays none. -/
inductive TextureName.FilledOptionally :
    Option TextureName → List Handle → Option Texture → Prop where
  | none : FilledOptionally none [] none
  | some {name : TextureName} {handles : List Handle} {t : Texture}
      (filled : name.Filled handles t) : FilledOptionally (some name) handles (some t)

/-- No shader stays none, and a shader becomes its handle. -/
inductive ShaderFilled : Option String → List Handle → Option ShaderId → Prop where
  | none : ShaderFilled none [] none
  | some (name : String) (id : ShaderId) : ShaderFilled (some name) [.shader id] (some id)

/-- The colors stay as they are, and the handles are used up in the order of the names. -/
inductive EffectContent.Filled :
    EffectContent TextureName String → List Handle → EffectContent Texture ShaderId → Prop where
  | negative : Filled .negative [] .negative
  | flash (color : Color) : Filled (.flash color) [] (.flash color)
  | fade {first second : Color} {t u : Option TextureName} {handles handles' : List Handle}
      {t' u' : Option Texture} (firstFilled : TextureName.FilledOptionally t handles t')
      (secondFilled : TextureName.FilledOptionally u handles' u') :
      Filled (.fade first t second u) (handles ++ handles') (.fade first t' second u')
  | overlay {t : TextureName} {shader : Option String} {handles handles' : List Handle}
      {t' : Texture} {shader' : Option ShaderId} (textureFilled : t.Filled handles t')
      (shaderFilled : ShaderFilled shader handles' shader') :
      Filled (.overlay t shader) (handles ++ handles') (.overlay t' shader')

/-! ## Loading one after the other -/

section

variable {σ : Type} [Graphics σ] {assets : Assets} {w v u : World σ} {rs rs' : List Resource}
  {made made' : List Call} {handles : List Handle} {e : GraphicsError}
  {answer answer' : Except GraphicsError (List Handle)}

/-- Loading the files `rs` makes the calls `made`: one for each file, up to the first that fails and
with that one. It leads from the one world to the other and gives the handles or the error. -/
inductive Fetches (assets : Assets) :
    World σ → List Resource → List Call → Except GraphicsError (List Handle) → World σ → Prop where
  | done (w : World σ) : Fetches assets w [] [] (.ok []) w
  | refused {w : World σ} {r : Resource} {e : GraphicsError} (rs : List Resource)
      (why : r.answer assets w = .error e) :
      Fetches assets w (r :: rs) [r.call assets] (.error e) (w.after (r.call assets))
  | next {w v : World σ} {r : Resource} {rs : List Resource} {made : List Call} {handle : Handle}
      {answer : Except GraphicsError (List Handle)} (loaded : r.answer assets w = .ok handle)
      (later : Fetches assets (w.after (r.call assets)) rs made answer v) :
      Fetches assets w (r :: rs) (r.call assets :: made) (answer.map (handle :: ·)) v

namespace Fetches

theorem append_of_ok (h : Fetches assets w rs made (.ok handles) v)
    (h' : Fetches assets v rs' made' answer' u) :
    Fetches assets w (rs ++ rs') (made ++ made') (answer'.map (handles ++ ·)) u := by
  generalize hanswer : Except.ok handles = answer at h
  induction h generalizing handles with
  | done w =>
    cases hanswer
    cases answer' <;> exact h'
  | refused => cases hanswer
  | @next w v r rs made handle answer loaded later ih =>
    cases answer with
    | error => cases hanswer
    | ok handles₀ =>
      cases hanswer
      have hnext := Fetches.next loaded (ih h' rfl)
      cases answer' <;> exact hnext

theorem append_of_error (h : Fetches assets w rs made (.error e) v) (rs' : List Resource) :
    Fetches assets w (rs ++ rs') made (.error e) v := by
  generalize hanswer : Except.error e = answer at h
  induction h with
  | done => cases hanswer
  | refused rs why =>
    cases hanswer
    exact .refused (rs ++ rs') why
  | @next w v r rs made handle answer loaded later ih =>
    cases answer with
    | ok => cases hanswer
    | error =>
      cases hanswer
      exact .next loaded (ih rfl)

/-- The world has seen the calls and nothing else. -/
theorem world_eq (h : Fetches assets w rs made answer v) : v = made.foldl World.after w := by
  induction h with
  | done => rfl
  | refused => rfl
  | next _ _ ih => exact ih

/-- No file is passed over and none is loaded out of turn. -/
theorem made_prefix (h : Fetches assets w rs made answer v) :
    made <+: rs.map (Resource.call assets) := by
  induction h with
  | done => exact List.prefix_rfl
  | refused rs _ => exact List.prefix_append [_] _
  | next _ _ ih => exact (List.prefix_cons_inj _).2 ih

theorem deterministic (h : Fetches assets w rs made answer v)
    (h' : Fetches assets w rs made' answer' u) : made = made' ∧ answer = answer' ∧ v = u := by
  induction h generalizing made' answer' u with
  | done =>
    cases h'
    exact ⟨rfl, rfl, rfl⟩
  | refused rs why =>
    cases h' with
    | refused _ why' =>
      cases why.symm.trans why'
      exact ⟨rfl, rfl, rfl⟩
    | next loaded' => cases why.symm.trans loaded'
  | next loaded later ih =>
    cases h' with
    | refused _ why' => cases loaded.symm.trans why'
    | next loaded' later' =>
      cases loaded.symm.trans loaded'
      obtain ⟨rfl, rfl, rfl⟩ := ih later'
      exact ⟨rfl, rfl, rfl⟩

/-- On record are the calls that were made. -/
theorem entries {μ : Type} {w v : World (Recorder μ σ)} (h : Fetches assets w rs made answer v) :
    v.entries = w.entries ++ made.map .inl := by
  induction h with
  | done => simp
  | refused => simp
  | next _ _ ih => rw [ih]; simp

end Fetches

/-- A load of the files `rs` ended in `x`: in the error of the file that failed, or in a value that
belongs to the handles. -/
inductive FetchedAs {β : Type} (assets : Assets) (w : World σ) (rs : List Resource)
    (R : List Handle → β → Prop) : Except GraphicsError β × World σ → Prop where
  | failed {made : List Call} {e : GraphicsError} {v : World σ}
      (fetches : Fetches assets w rs made (.error e) v) : FetchedAs assets w rs R (.error e, v)
  | filled {made : List Call} {handles : List Handle} {b : β} {v : World σ}
      (fetches : Fetches assets w rs made (.ok handles) v) (belongs : R handles b) :
      FetchedAs assets w rs R (.ok b, v)

namespace FetchedAs

variable {α β γ : Type} {R : List Handle → α → Prop} {S : List Handle → β → Prop}
  {T : List Handle → γ → Prop}

theorem pure {a : α} (w : World σ) (h : R [] a) : FetchedAs assets w [] R (.ok a, w) :=
  .filled (.done w) h

/-- A load of one file, whose handle `wrap` makes of what the backend replies. -/
theorem single {ι : Type} {r : Resource} {reply : Except GraphicsError ι} {wrap : ι → Handle}
    {f : ι → α} (hanswer : r.answer assets w = reply.map wrap) (hR : ∀ id, R [wrap id] (f id)) :
    FetchedAs assets w [r] R (reply.map f, w.after (r.call assets)) := by
  cases reply with
  | error e => exact .failed (.refused [] hanswer)
  | ok id => exact .filled (.next hanswer (.done _)) (hR id)

/-- A load of some files, and of others after it. -/
theorem after {x : Except GraphicsError α × World σ} (h : Fetches assets w rs made (.ok handles) v)
    (hx : FetchedAs assets v rs' (fun handles' => R (handles ++ handles')) x) :
    FetchedAs assets w (rs ++ rs') R x := by
  cases hx with
  | failed h' => exact .failed (h.append_of_ok h')
  | filled h' hR => exact .filled (h.append_of_ok h') hR

theorem map {x : Except GraphicsError α × World σ} {f : α → β} (h : FetchedAs assets w rs R x)
    (hf : ∀ handles a, R handles a → S handles (f a)) :
    FetchedAs assets w rs S (x.1.map f, x.2) := by
  cases h with
  | failed hfetch => exact .failed hfetch
  | filled hfetch hR => exact .filled hfetch (hf _ _ hR)

end FetchedAs

end

/-! ## Loading an effect -/

section

variable {σ : Type} [Graphics σ]

theorem TextureName.load_fetched (assets : Assets) (w : World σ) (name : TextureName) :
    FetchedAs assets w name.resources name.Filled (name.load assets w) := by
  cases name with
  | target t => exact .pure w (.target t)
  | file name =>
    have hanswer : (Resource.texture name).answer assets w =
      (w.call (.loadTexture (assets.resolve name))).1.map Handle.texture := rfl
    exact .single hanswer (.file name)

theorem TextureName.load?_fetched (assets : Assets) (w : World σ) (name : Option TextureName) :
    FetchedAs assets w (name.toList.flatMap TextureName.resources)
      (TextureName.FilledOptionally name) (TextureName.load? assets w name) := by
  cases name with
  | none => exact .pure w .none
  | some name =>
    rw [Option.toList_some, List.flatMap_singleton]
    exact (name.load_fetched assets w).map fun _ _ h => .some h

theorem loadShader?_fetched (assets : Assets) (w : World σ) (name : Option String) :
    FetchedAs assets w (name.toList.map .shader) (ShaderFilled name)
      (loadShader? assets w name) := by
  cases name with
  | none => exact .pure w .none
  | some name =>
    have hanswer : (Resource.shader name).answer assets w =
      (w.call (.loadShader (assets.resolve name) .fragment)).1.map Handle.shader := rfl
    exact .single hanswer (.some name)

theorem EffectContent.load_fetched (assets : Assets) (w : World σ)
    (content : EffectContent TextureName String) :
    FetchedAs assets w content.resources content.Filled (content.load assets w) := by
  cases content with
  | negative => exact .pure w .negative
  | flash color => exact .pure w (.flash color)
  | fade first t second u =>
    have hfirst := TextureName.load?_fetched assets w t
    simp only [load]
    generalize TextureName.load? assets w t = x at hfirst ⊢
    cases hfirst with
    | failed hfetch => exact .failed (hfetch.append_of_error _)
    | @filled _ handles t' v hfetch ht =>
      refine .after hfetch ?_
      have hsecond := TextureName.load?_fetched assets v u
      simp only
      generalize TextureName.load? assets v u = y at hsecond ⊢
      cases hsecond with
      | failed hfetch' => exact .failed hfetch'
      | filled hfetch' hu => exact .filled hfetch' (.fade ht hu)
  | overlay t shader =>
    have htexture := t.load_fetched assets w
    simp only [load]
    generalize t.load assets w = x at htexture ⊢
    cases htexture with
    | failed hfetch => exact .failed (hfetch.append_of_error _)
    | @filled _ handles t' v hfetch ht =>
      refine .after hfetch ?_
      have hshader := loadShader?_fetched assets v shader
      simp only
      generalize loadShader? assets v shader = y at hshader ⊢
      cases hshader with
      | failed hfetch' => exact .failed hfetch'
      | filled hfetch' hs => exact .filled hfetch' (.overlay ht hs)

/-- An effect that is read off its arguments and loaded has the window that they spell. -/
theorem Effect.ofArgs_fetched {draft : EffectDraft} {args : List String} (assets : Assets)
    (h : draft.SpelledBy args) (w : World σ) :
    ∃ x, FetchedAs assets w draft.content.resources
        (fun handles e =>
          ∃ content, draft.content.Filled handles content ∧ e = ⟨draft.window, content⟩)
        x ∧ ofArgs assets args w = (x.1.mapError .resource, x.2) := by
  refine ⟨load assets draft w, ?_, ?_⟩
  · exact (draft.content.load_fetched assets w).map fun _ content h => ⟨content, h, rfl⟩
  · simp only [ofArgs, EffectDraft.ofArgs_eq_ok_iff.2 h]

/-- Arguments that spell nothing are refused before anything is loaded. -/
theorem Effect.ofArgs_unspelled {args : List String} (assets : Assets)
    (h : ∀ draft : EffectDraft, ¬ draft.SpelledBy args) (w : World σ) :
    ∃ e, ofArgs assets args w = (.error e, w) ∧ ∀ why, e ≠ .resource why := by
  unfold ofArgs
  cases hargs : EffectDraft.ofArgs args with
  | error e => exact ⟨e, rfl, fun why hwhy => EffectDraft.ofArgs_ne_resource (hwhy ▸ hargs)⟩
  | ok draft => exact absurd (EffectDraft.ofArgs_eq_ok_iff.1 hargs) (h draft)

/-- An effect comes of arguments that spell one if all its files can be loaded, and of no others. -/
theorem Effect.exists_ofArgs_eq_ok_iff {assets : Assets} {args : List String} {w : World σ} :
    (∃ e v, ofArgs assets args w = (.ok e, v)) ↔
      ∃ draft : EffectDraft, draft.SpelledBy args ∧
        ∃ made handles v, Fetches assets w draft.content.resources made (.ok handles) v := by
  constructor
  · rintro ⟨e, v, he⟩
    by_cases hspelled : ∃ draft : EffectDraft, draft.SpelledBy args
    · obtain ⟨draft, hdraft⟩ := hspelled
      obtain ⟨x, hx, hresult⟩ := ofArgs_fetched assets hdraft w
      cases hx with
      | failed => cases hresult.symm.trans he
      | filled hfetch => exact ⟨draft, hdraft, _, _, _, hfetch⟩
    · obtain ⟨why, hwhy, -⟩ := ofArgs_unspelled assets (not_exists.1 hspelled) w
      cases hwhy.symm.trans he
  · rintro ⟨draft, hdraft, made, handles, v, hfetch⟩
    obtain ⟨x, hx, hresult⟩ := ofArgs_fetched assets hdraft w
    cases hx with
    | failed hfetch' => cases (hfetch.deterministic hfetch').2.1
    | filled => exact ⟨_, _, hresult⟩

/-- An effect that was loaded is the one that its arguments spell. -/
theorem Effect.filled_of_ofArgs {assets : Assets} {args : List String} {w v : World σ}
    {e : ImageEffect} (he : ofArgs assets args w = (.ok e, v)) :
    ∃ draft : EffectDraft, draft.SpelledBy args ∧
      ∃ made handles, Fetches assets w draft.content.resources made (.ok handles) v ∧
        ∃ content, draft.content.Filled handles content ∧ e = ⟨draft.window, content⟩ := by
  obtain ⟨draft, hdraft, -⟩ := exists_ofArgs_eq_ok_iff.1 ⟨e, v, he⟩
  obtain ⟨x, hx, hresult⟩ := ofArgs_fetched assets hdraft w
  cases hx with
  | failed => cases hresult.symm.trans he
  | filled hfetch hfilled =>
    cases hresult.symm.trans he
    exact ⟨draft, hdraft, _, _, hfetch, hfilled⟩

end

/-! ## What the arguments decide -/

section

variable {token : String} {args front : List String} {handles : List Handle}

theorem TextureName.SpelledBy.names_sublist {name : TextureName} (h : name.SpelledBy token) :
    (name.resources.map Resource.name).Sublist [token] := by
  cases h with
  | target i => exact List.nil_sublist _
  | file _ => exact List.Sublist.refl _

theorem TextureName.SpelledOptionally.names_sublist {t : Option TextureName}
    (h : SpelledOptionally t front) :
    ((t.toList.flatMap TextureName.resources).map Resource.name).Sublist front := by
  cases h with
  | left => exact List.nil_sublist _
  | none => exact List.nil_sublist _
  | some _ _ spelled => simpa using spelled.names_sublist

/-- Files are named in the order of the arguments. -/
theorem EffectDraft.SpelledBy.names_sublist {draft : EffectDraft} (h : draft.SpelledBy args) :
    (draft.content.resources.map Resource.name).Sublist args := by
  obtain ⟨-, -, hcontent⟩ := h
  refine List.Sublist.cons _ (List.Sublist.cons _ (List.Sublist.cons _ ?_))
  cases hcontent with
  | negative => exact List.nil_sublist _
  | whiteFlash => exact List.nil_sublist _
  | flash => exact List.nil_sublist _
  | fade _ hfirst _ hsecond =>
    rw [EffectContent.resources, List.map_append]
    exact (hfirst.names_sublist.cons _).append (hsecond.names_sublist.cons _)
  | @overlay texture token shader htexture =>
    have hshader : (shader.toList.map Resource.shader).map Resource.name = shader.toList := by
      cases shader <;> rfl
    rw [EffectContent.resources, List.map_append, hshader]
    exact htexture.names_sublist.append (List.Sublist.refl _)

theorem TextureName.Filled.ne_framebuffer {name : TextureName} {t : Texture}
    (h : name.Filled handles t) (hspelled : name.SpelledBy token) : t ≠ .target .framebuffer := by
  cases hspelled with
  | target i => cases h; simp
  | file => cases h; simp

theorem TextureName.FilledOptionally.ne_framebuffer {name : Option TextureName}
    {t : Option Texture} (h : FilledOptionally name handles t)
    (hspelled : SpelledOptionally name front) : t ≠ Option.some (.target .framebuffer) := by
  cases h with
  | none => simp
  | some filled =>
    cases hspelled with
    | some _ _ spelled => simpa using filled.ne_framebuffer spelled

/-- No effect shows the framebuffer. -/
theorem EffectContent.Filled.framebuffer_notMem {content : EffectContent TextureName String}
    {content' : EffectContent Texture ShaderId} (h : content.Filled handles content')
    (hspelled : content.SpelledBy args) : .target .framebuffer ∉ content'.textures := by
  cases h with
  | negative => simp [textures]
  | flash => simp [textures]
  | fade hfirst hsecond =>
    cases hspelled with
    | fade _ hfirst' _ hsecond' =>
      have hnotFirst := hfirst.ne_framebuffer hfirst'
      have hnotSecond := hsecond.ne_framebuffer hsecond'
      simpa [textures] using ⟨hnotFirst, hnotSecond⟩
  | overlay htexture _ =>
    cases hspelled with
    | overlay htexture' =>
      simpa [textures] using (htexture.ne_framebuffer htexture').symm

end

section

variable {σ : Type} [Graphics σ]

/-- Arguments that spell no effect are refused for what they are, and nothing is loaded. If they
spell one, the files that they name are loaded in their order, up to the first that fails: then the
error is that of the file. Otherwise the effect is the one that is spelled, with the handles that
the backend gave, and it never shows the framebuffer. -/
theorem Effect.ofArgs_settles (assets : Assets) (args : List String) (w : World σ) :
    ((∀ draft : EffectDraft, ¬ draft.SpelledBy args) →
      ∃ e, ofArgs assets args w = (.error e, w) ∧ ∀ why, e ≠ .resource why) ∧
    ∀ draft : EffectDraft, draft.SpelledBy args →
      (draft.content.resources.map Resource.name).Sublist args ∧
      ∃ made v, made <+: draft.content.resources.map (Resource.call assets) ∧
        v = made.foldl World.after w ∧
        ((∃ e, Fetches assets w draft.content.resources made (.error e) v ∧
            ofArgs assets args w = (.error (.resource e), v)) ∨
          ∃ handles content, Fetches assets w draft.content.resources made (.ok handles) v ∧
            draft.content.Filled handles content ∧ .target .framebuffer ∉ content.textures ∧
            ofArgs assets args w = (.ok ⟨draft.window, content⟩, v)) := by
  refine ⟨fun h => ofArgs_unspelled assets h w, fun draft hspelled =>
    ⟨hspelled.names_sublist, ?_⟩⟩
  obtain ⟨x, hx, hresult⟩ := ofArgs_fetched assets hspelled w
  cases hx with
  | @failed made e v hfetch =>
    exact ⟨made, v, hfetch.made_prefix, hfetch.world_eq, .inl ⟨e, hfetch, hresult⟩⟩
  | @filled made handles _ v hfetch hfilled =>
    obtain ⟨content, hcontent, rfl⟩ := hfilled
    obtain ⟨-, -, hspelledContent⟩ := hspelled
    exact ⟨made, v, hfetch.made_prefix, hfetch.world_eq, .inr ⟨handles, content, hfetch, hcontent,
      hcontent.framebuffer_notMem hspelledContent, hresult⟩⟩

end

end DemoReel
