import DemoReel.Proofs.Disk.Stays
import DemoReel.Proofs.Playback.Keeps
import DemoReel.Proofs.Playback.Outcome

/-!
# Assets of captured frames

Asset names are seen from the directory of the script, and captured frames have a working directory
of their own. Main statement: a frame that is captured finds the assets of the script exactly as
long as the path of that directory, as it was written, leads there from the directory of the frames
(`finds_of_capture`).
-/

namespace DemoReel

variable {π σ : Type}

/-! ## What is asked for -/

/-- A file that was asked for, and the disk as it was then. -/
structure Find where
  path : Path
  disk : Disk

/-- A backend that keeps what it is asked to load, and the disk as it is then. -/
structure Finder (σ : Type) where
  inner : σ
  finds : List Find := []

namespace Finder

instance [Graphics σ] : Graphics (Finder σ) where
  perform c w :=
    let (reply, world) := Graphics.perform c { w with gfx := w.gfx.inner }
    let finds := w.gfx.finds ++ (c.loaded?.map (⟨·, w.disk⟩)).toList
    (reply, { world with gfx := { inner := world.gfx, finds } })

theorem stays [Graphics σ] (h : Graphics.Stays σ) : Graphics.Stays (Finder σ) :=
  fun w c => h { w with gfx := w.gfx.inner } c

end Finder

/-- Since the world with the disk `d` and the finds `old`, nothing but asset names has been asked
for, and all directories have stayed. -/
structure Searched (assets : Assets) (d : Disk) (old : List Find) (w : World (Finder σ)) :
    Prop where
  stays : d.Stays w.disk
  finds : ∃ new, w.gfx.finds = old ++ new ∧
    ∀ f ∈ new, (∃ name, f.path = assets.resolve name) ∧ d.Stays f.disk

theorem Searched.keptByAssets [Graphics σ] (hσ : Graphics.Stays σ) (assets : Assets) (d : Disk)
    (old : List Find) :
    World.KeptByAssets assets (Searched assets d old : World (Finder σ) → Prop) := by
  intro w c name hc hw
  obtain ⟨new, hfinds, hnew⟩ := hw.finds
  refine ⟨hw.stays.trans (Finder.stays hσ w c), new ++ [⟨assets.resolve name, w.disk⟩], ?_, ?_⟩
  · show w.gfx.finds ++ (c.loaded?.map _).toList = _
    rw [hc, hfinds, List.append_assoc]
    rfl
  · intro f hf
    rcases List.mem_append.1 hf with hf | hf
    · exact hnew f hf
    · obtain rfl := List.mem_singleton.1 hf
      exact ⟨⟨name, rfl⟩, hw.stays⟩

/-- A find of a frame whose working directory is `there`, of a script that was loaded in the working
directory `here`: its parent `base` led from there to the directory `home`. -/
structure Found (base : Path) (home here there : Location) (f : Find) : Prop where
  /-- What is asked for is an asset name, seen from the directory of the script. -/
  named : ∃ name, f.path = (⟨some base⟩ : Assets).resolve name
  workingDir : f.disk.workingDir = there
  /-- From the working directory of the load, asset names lead where they should. -/
  before : (f.disk.seenFrom here).Faithful base home
  /-- From the directory of the frames, they do if the directory of the script is found again. -/
  faithful_iff : f.disk.Faithful base home ↔ f.disk.locate base = .ok home
  absolute : base.isAbsolute = true → f.disk.Faithful base home
  /-- A relative path that never goes up leads there from one working directory only. -/
  down : base.isAbsolute = false → (∀ m ∈ base.moves, m ≠ .up) →
    (f.disk.Faithful base home ↔ there = here)

theorem Found.of_keepsDirectories {d : Disk} {base : Path} {home there : Location} {f : Find}
    (hnamed : ∃ name, f.path = (⟨some base⟩ : Assets).resolve name)
    (hkeeps : d.KeepsDirectories f.disk) (hdir : f.disk.workingDir = there)
    (hbase : d.locate base = .ok home) : Found base home d.workingDir there f where
  named := hnamed
  workingDir := hdir
  before := by
    have hseen : d.KeepsDirectories (f.disk.seenFrom d.workingDir) := hkeeps
    exact hseen.faithful hbase (.inr rfl)
  faithful_iff := Disk.faithful_iff
  absolute habsolute := hkeeps.faithful hbase (.inl habsolute)
  down hrelative hdown := by
    constructor
    · intro h
      exact hdir.symm.trans (Disk.workingDir_eq_of_faithful hbase hrelative hdown h)
    · intro hsame
      exact hkeeps.faithful hbase (.inr (hdir.trans hsame))

/-- What loading a script from a file leads to. -/
theorem Scheduler.of_load_file {s₀ s : Scheduler π σ} {w₀ w : World σ} {path : Path}
    (h : s₀.load (.file path) w₀ = (.ok (), s, w)) :
    (∃ location e, w₀.disk.resolve path = .ok (location, e)) ∧ s.table = s₀.table ∧
      s.assets = ⟨path.parent?⟩ ∧ w.disk = w₀.disk := by
  have hopened : ∃ location e, w₀.disk.resolve path = .ok (location, e) := by
    cases hresolve : w₀.disk.resolve path with
    | ok found => exact ⟨found.1, found.2, rfl⟩
    | error why =>
      simp only [load, Script.Source.reader, hresolve] at h
      cases h
  unfold load at h
  split at h
  · cases h
  · cases h
    exact ⟨hopened, rfl, rfl, rfl⟩

namespace Playback

/-- Playback by the standard table, with all directories that were there when the disk was `d`. -/
structure Settled [Graphics σ] (assets : Assets) (d : Disk) (p : Playback π σ) : Prop where
  table : p.scheduler.table = .standard
  assets : p.scheduler.assets = assets
  stays : d.Stays p.world.disk

namespace Settled

variable [Graphics σ] {assets : Assets} {d : Disk} {p : Playback π (Finder σ)}

/-- What a drain asks for. -/
theorem searched (h : p.Settled assets d) (hσ : Graphics.Stays σ) (time : Int) :
    Searched assets d p.world.gfx.finds (p.scheduler.drain time p.world).2.2 := by
  refine Scheduler.drain_keeps (Searched.keptByAssets hσ assets d p.world.gfx.finds)
    (fun w j hw => ⟨hw.stays, hw.finds⟩) h.table h.assets time ?_
  exact ⟨h.stays, [], (List.append_nil _).symm, by simp⟩

variable [Part π (Finder σ)]

omit [Part π (Finder σ)] in
theorem heed (h : p.Settled assets d) (c : Cue) : (p.heed c).Settled assets d := by
  have hheeded := p.heeded_heed c
  obtain ⟨journal, hworld⟩ := hheeded.world
  refine ⟨hheeded.table.trans h.table, hheeded.assets.trans h.assets, ?_⟩
  rw [hworld]
  exact h.stays

theorem step (h : p.Settled assets d) (hσ : Graphics.Stays σ) (hπ : Part.Stays π (Finder σ))
    (reading : Int64) : (p.step reading).2.Settled assets d := by
  have hstays : d.Stays (p.step reading).2.world.disk := by
    refine step_keeps (P := fun w => d.Stays w.disk) (fun w c hw => hw.trans (Finder.stays hσ w c))
      (fun _ _ hw => hw) (fun q frame w hw => hw.trans (hπ q frame w)) reading p ?_
    exact (h.searched hσ (p.timeAt reading)).stays
  have hsetting := p.scheduler.sameSetting_drain (p.timeAt reading) p.world
  rcases hdrain : p.scheduler.drain (p.timeAt reading) p.world with ⟨result, s, w⟩
  rw [hdrain] at hsetting
  cases result with
  | error e =>
    rw [step_of_drain_error hdrain] at hstays ⊢
    exact ⟨hsetting.table.trans h.table, hsetting.assets.trans h.assets, hstays⟩
  | ok report =>
    obtain ⟨frameIndex, lastTime, timeline, world, hstep⟩ := exists_step hdrain
    rw [hstep] at hstays ⊢
    exact ⟨hsetting.table.trans h.table, hsetting.assets.trans h.assets, hstays⟩

theorem after (h : p.Settled assets d) (hσ : Graphics.Stays σ) (hπ : Part.Stays π (Finder σ))
    (cues : Nat → Cue) (n : Nat) : (p.after cues n).Settled assets d := by
  induction n generalizing p cues with
  | zero => exact h
  | succ n ih => exact ih ((h.heed (cues 0)).step hσ hπ (cues 0).reading) fun k => cues (k + 1)

end Settled

section

variable [Graphics σ] [Part π (Finder σ)]

/-- What the drain of frame number `i` asks for, counted from here. -/
def findsAt (cues : Nat → Cue) (i : Nat) (p : Playback π (Finder σ)) : List Find :=
  let q := (p.after cues i).heed (cues i)
  let (_, _, world) := q.scheduler.drain (q.timeAt (cues i).reading) q.world
  world.gfx.finds.drop q.world.gfx.finds.length

/-- What a captured frame asks for, when the script was loaded from a file by the standard table.
The directory of the script is where the parent of its path led then. Its asset names lead to the
same files as before if the path is absolute; a relative path has to lead to that directory from the
directory of the frames, too. -/
theorem finds_of_capture (hσ : Graphics.Stays σ) (hπ : Part.Stays π (Finder σ))
    {s₀ s : Scheduler π (Finder σ)} {w₀ w : World (Finder σ)} {path : Path}
    (htable : s₀.table = .standard) (hload : s₀.load (.file path) w₀ = (.ok (), s, w))
    {player : Player} {dir out : Path} {fps : Float32} {disk : Disk}
    (hmode : player.mode = .capture dir fps) (hfps : isFrameRate fps = true)
    (hdir : openCaptureDir dir w.disk = (.ok out, disk)) (cues : Cues) :
    let p : Playback π (Finder σ) := ⟨player, s, w⟩
    let first := p.capturing out disk
    (∀ fuel, p.run fuel cues = ((first.runFrames fuel cues.frame).1,
      (first.runFrames fuel cues.frame).2.leaveCaptureDir w₀.disk.workingDir)) ∧
    (∀ location content, w₀.disk.resolve path = .ok (location, .file content) →
      ∃ base, path.parent? = some base) ∧
    ∀ base, path.parent? = some base → ∃ home, w₀.disk.locate base = .ok home ∧
      (w₀.disk.Rooted → ∀ location content,
        w₀.disk.resolve path = .ok (location, .file content) → ∃ name, location = home ++ [name]) ∧
      ∀ i, ∀ f ∈ first.findsAt cues.frame i,
        Found base home w₀.disk.workingDir disk.workingDir f := by
  intro p first
  obtain ⟨⟨location, e, hresolve⟩, htable', hassets, hdisk⟩ := Scheduler.of_load_file hload
  have hkeeps : w₀.disk.KeepsDirectories disk := hdisk ▸ keepsDirectories_openCaptureDir hdir
  refine ⟨fun fuel => ?_, fun location content hfile => Disk.exists_parent?_of_file hfile, ?_⟩
  · have hrun := run_of_capture (p := p) hmode hfps hdir fuel cues
    rwa [show p.world.disk = w₀.disk from hdisk] at hrun
  intro base hparent
  -- The path led somewhere when the script was loaded, so its parent did, too.
  obtain ⟨hlocate, -⟩ := Disk.locate_of_resolve hresolve
  obtain ⟨home, hbase, -⟩ := Disk.exists_locate_parent hparent hlocate
  refine ⟨home, hbase, fun hrooted location content hfile => ?_, fun i f hf => ?_⟩
  · obtain ⟨hlocate, hlookup⟩ := Disk.locate_of_resolve hfile
    obtain ⟨home', hbase', hinside⟩ := Disk.exists_locate_parent hparent hlocate
    obtain rfl : home = home' := Except.ok.inj (hbase.symm.trans hbase')
    exact hinside content hrooted hlookup
  · -- Directories stay from then on, so only the working directory makes a difference.
    have hfirst : first.Settled ⟨some base⟩ disk :=
      ⟨htable'.trans htable, hparent ▸ hassets, .refl disk⟩
    obtain ⟨-, new, hfinds, hnew⟩ :=
      ((hfirst.after hσ hπ cues.frame i).heed (cues.frame i)).searched hσ
        (((first.after cues.frame i).heed (cues.frame i)).timeAt (cues.frame i).reading)
    have hmem : f ∈ new := by
      simp only [findsAt, hfinds, List.drop_left] at hf
      exact hf
    obtain ⟨hnamed, hstays⟩ := hnew f hmem
    exact .of_keepsDirectories hnamed (fun l hl => hstays.directories l (hkeeps l hl))
      hstays.workingDir hbase

end

/-- A script in a directory of its own, which shows one shader that stands beside it. -/
def reelDisk : Disk where
  entries :=
    [(["reel"], .directory),
     (["reel", "demo.script"], .file "0 FX overlay 0 1s t0 glow.frag\n0 END\n".toUTF8),
     (["reel", "glow.frag"], .file "void main();\n".toUTF8)]

/-- The script is loaded by a path, from the root. -/
def reelLoaded (path : Path) :
    Except ScriptError Unit × Scheduler Scene (Finder Canvas) × World (Finder Canvas) :=
  ({ table := .standard } : Scheduler Scene (Finder Canvas)).load (.file path)
    { gfx := { inner := .ofSize 1 1 }, disk := reelDisk }

/-- Then the directory of the frames is opened. -/
def reelOpened (path : Path) : Except RunError Path × Disk :=
  openCaptureDir ⟨"frames"⟩ (reelLoaded path).2.2.disk

def reelPlayer : Player := { mode := .capture ⟨"frames"⟩ 25 }

/-- The frames are about to be captured. -/
def reelCapturing (path : Path) : Playback Scene (Finder Canvas) :=
  let (_, s, w) := reelLoaded path
  capturing ⟨"/frames"⟩ (reelOpened path).2 ⟨reelPlayer, s, w⟩

/-- By an absolute path, the shader is found. -/
theorem finds_of_capture_absolute :
    let path : Path := ⟨"/reel/demo.script"⟩
    let finds := (reelCapturing path).findsAt (Cues.still 0).frame 0
    (reelLoaded path).1 = .ok () ∧ (reelOpened path).1 = .ok ⟨"/frames"⟩ ∧
      path.parent? = some ⟨"/reel"⟩ ∧
      finds.map (fun f => (f.path, f.disk.locate f.path)) =
        [(⟨"/reel/glow.frag"⟩, .ok ["reel", "glow.frag"])] ∧
      ∀ f ∈ finds, Found ⟨"/reel"⟩ ["reel"] [] ["frames"] f ∧
        f.disk.Faithful ⟨"/reel"⟩ ["reel"] := by
  intro path finds
  have hloaded : (reelLoaded path).1 = .ok () := by decide +kernel
  have hopened : (reelOpened path).1 = .ok ⟨"/frames"⟩ := by decide +kernel
  have hparent : path.parent? = some ⟨"/reel"⟩ := by decide +kernel
  have hhome : reelDisk.locate ⟨"/reel"⟩ = .ok ["reel"] := by decide +kernel
  have hthere : (reelOpened path).2.workingDir = ["frames"] := by decide +kernel
  have hmode : reelPlayer.mode = .capture ⟨"frames"⟩ 25 := rfl
  have hload : reelLoaded path = (.ok (), (reelLoaded path).2) := Prod.ext hloaded rfl
  have hdir : reelOpened path = (.ok ⟨"/frames"⟩, (reelOpened path).2) := Prod.ext hopened rfl
  have hcanvas : Graphics.Stays Canvas := Canvas.stays Image.stays_writeFile
  obtain ⟨-, -, hfound⟩ := finds_of_capture hcanvas (Scene.stays (Finder.stays hcanvas))
    rfl hload hmode (by decide +kernel) hdir (.still 0)
  obtain ⟨home, hbase, -, hfinds⟩ := hfound _ hparent
  obtain rfl : ["reel"] = home := Except.ok.inj (hhome.symm.trans hbase)
  refine ⟨hloaded, hopened, hparent, by decide +kernel, fun f hf => ?_⟩
  have hf' := hfinds 0 f hf
  rw [hthere] at hf'
  exact ⟨hf', hf'.absolute rfl⟩

/-- By a relative path, it is looked for below the directory of the frames. -/
theorem not_faithful_relative :
    let path : Path := ⟨"reel/demo.script"⟩
    let finds := (reelCapturing path).findsAt (Cues.still 0).frame 0
    (reelLoaded path).1 = .ok () ∧ (reelOpened path).1 = .ok ⟨"/frames"⟩ ∧
      path.parent? = some ⟨"reel"⟩ ∧ reelDisk.locate ⟨"reel"⟩ = .ok ["reel"] ∧
      finds.map (fun f => (f.path, f.disk.locate f.path)) =
        [(⟨"reel/glow.frag"⟩, .error .noSuchFile)] ∧
      finds.map (fun f => (f.disk.seenFrom ["reel"]).locate ⟨"glow.frag"⟩) =
        [.ok ["reel", "glow.frag"]] ∧
      ∀ f ∈ finds, ¬ f.disk.Faithful ⟨"reel"⟩ ["reel"] := by
  intro path finds
  have hasked : finds.map (fun f => (f.path, f.disk.locate f.path)) =
      [(⟨"reel/glow.frag"⟩, .error .noSuchFile)] := by decide +kernel
  have hmeant : finds.map (fun f => (f.disk.seenFrom ["reel"]).locate ⟨"glow.frag"⟩) =
      [.ok ["reel", "glow.frag"]] := by decide +kernel
  refine ⟨by decide +kernel, by decide +kernel, by decide +kernel, by decide +kernel, hasked,
    hmeant, fun f hf hfaithful => ?_⟩
  have hpath := List.mem_map_of_mem (f := fun f => (f.path, f.disk.locate f.path)) hf
  have hhere := List.mem_map_of_mem
    (f := fun f => (f.disk.seenFrom ["reel"]).locate ⟨"glow.frag"⟩) hf
  rw [hasked, List.mem_singleton, Prod.mk.injEq] at hpath
  rw [hmeant, List.mem_singleton] at hhere
  obtain ⟨hname, hmissing⟩ := hpath
  have hsame := hfaithful "glow.frag" rfl
  have hresolve : (⟨some ⟨"reel"⟩⟩ : Assets).resolve "glow.frag" = f.path := hname ▸ rfl
  rw [hresolve, hmissing, hhere] at hsame
  cases hsame

end Playback

end DemoReel
