import DemoReel.Canvas.Basic
import DemoReel.Image.Files
import DemoReel.Part.Scene
import DemoReel.Playback.Player
import DemoReel.Proofs.Disk.Walk

/-!
# Directories stay

Nothing that is done to files takes a directory away, and nothing but entering one changes the
working directory (`Disk.Stays`). Main statements: this holds of all that is asked of a canvas
(`Canvas.stays`), and the directories are still there when captured frames get a working directory
of their own (`keepsDirectories_openCaptureDir`).
-/

namespace DemoReel

variable {π σ : Type}

namespace Disk

theorem lookup_put_of_ne (d : Disk) {l n : Location} (e : Entry) (h : n ≠ l) :
    (d.put l e).lookup n = d.lookup n := by
  have hentries : ∀ es : List (Location × Entry),
      (es.filter (·.1 ≠ l)).lookup n = es.lookup n := by
    intro es
    induction es with
    | nil => rfl
    | cons x rest ih =>
      by_cases hx : x.1 = l
      · have hn : (n == x.1) = false := by simpa [hx] using h
        rw [List.filter_cons_of_neg (by simpa using hx), List.lookup_cons, hn]
        exact ih
      · rw [List.filter_cons_of_pos (by simpa using hx), List.lookup_cons, List.lookup_cons, ih]
  have hn : (n == l) = false := by simpa using h
  unfold lookup put
  split
  · rfl
  · rw [List.lookup_cons, hn]
    exact hentries d.entries

/-- Directories stay, and the working directory is the same. -/
structure Stays (d d' : Disk) : Prop where
  workingDir : d'.workingDir = d.workingDir
  directories : d.KeepsDirectories d'

namespace Stays

variable {d d' d'' : Disk}

theorem refl (d : Disk) : d.Stays d := ⟨rfl, fun _ h => h⟩

theorem trans (h : d.Stays d') (h' : d'.Stays d'') : d.Stays d'' :=
  ⟨h'.workingDir.trans h.workingDir, fun l hl => h'.directories l (h.directories l hl)⟩

/-- What is put where no directory is takes none away. -/
theorem put {l : Location} (h : d.lookup l ≠ some .directory) (e : Entry) :
    d.Stays (d.put l e) := by
  refine ⟨rfl, fun n hn => ?_⟩
  have hne : n ≠ l := by
    rintro rfl
    exact h hn
  rw [lookup_put_of_ne d e hne, hn]

theorem write {p : Path} {content : ByteArray} (h : d.write p content = .ok d') : d.Stays d' := by
  unfold Disk.write at h
  cases hplace : d.place p with
  | error why => simp [hplace, bind, Except.bind] at h
  | ok place =>
    obtain ⟨l, name⟩ := place
    cases name with
    | none => simp [hplace, bind, Except.bind] at h
    | some n =>
      simp only [hplace, bind, Except.bind] at h
      split at h
      · cases h
      · split at h
        · cases h
        · next hfree =>
          cases h
          exact put hfree _

theorem makeDir {p : Path} (h : d.makeDir p = .ok d') : d.Stays d' := by
  unfold Disk.makeDir at h
  cases hplace : d.place p with
  | error why => simp [hplace, bind, Except.bind] at h
  | ok place =>
    obtain ⟨l, name⟩ := place
    cases name with
    | none => simp [hplace, bind, Except.bind] at h
    | some n =>
      simp only [hplace, bind, Except.bind] at h
      split at h
      · cases h
      · next hfree =>
        cases h
        exact put (by simp [hfree]) _

theorem makeDirsWithin (fuel : Nat) (d : Disk) (p : Path) :
    d.Stays (Disk.makeDirsWithin fuel d p).2 := by
  fun_induction Disk.makeDirsWithin fuel d p with
  | case1 => exact .refl _
  | case2 => exact .refl _
  | case3 fuel d p _ d' hmake => exact .makeDir hmake
  | case4 => exact .refl _
  | case5 fuel d p _ _ up _ why d' hup ih => rwa [hup] at ih
  | case6 fuel d p _ _ up _ d' hup d'' hmake ih =>
    rw [hup] at ih
    exact ih.trans (.makeDir hmake)
  | case7 fuel d p _ _ up _ d' hup _ _ _ ih => rwa [hup] at ih
  | case8 fuel d p _ _ up _ d' hup _ _ _ ih => rwa [hup] at ih
  | case9 => exact .refl _
  | case10 => exact .refl _

end Stays

end Disk

/-- A directory for frames is made and entered; if that fails, the working directory is still the
same. Either way nothing is taken away. -/
theorem openCaptureDir_cases (dir : Path) (d : Disk) :
    ∃ made, d.Stays made ∧
      ((∃ path why, Playback.openCaptureDir dir d = (.error (.captureDir path why), made)) ∨
        ∃ out l, Playback.openCaptureDir dir d = (.ok out, made.seenFrom l)) := by
  have hmade := Disk.Stays.makeDirsWithin (dir.text.length + 2) d dir
  unfold Playback.openCaptureDir Disk.makeDirs
  cases hmake : Disk.makeDirsWithin (dir.text.length + 2) d dir with
  | mk result made =>
    rw [hmake] at hmade
    refine ⟨made, hmade, ?_⟩
    cases result with
    | error why => exact .inl ⟨dir, why, rfl⟩
    | ok _ =>
      dsimp only
      split
      · next why _ => exact .inl ⟨dir, why, rfl⟩
      · next out _ =>
        cases henter : made.enter out with
        | error why => exact .inl ⟨out, why, rfl⟩
        | ok entered =>
          obtain ⟨l, -, rfl⟩ := Disk.enter_eq_ok_iff.1 henter
          exact .inr ⟨out, l, rfl⟩

/-- What was a directory before frames are captured is one when they are. -/
theorem keepsDirectories_openCaptureDir {dir out : Path} {d d' : Disk}
    (h : Playback.openCaptureDir dir d = (.ok out, d')) : d.KeepsDirectories d' := by
  obtain ⟨made, hstays, ⟨path, why, heq⟩ | ⟨out', l, heq⟩⟩ := openCaptureDir_cases dir d
  · rw [heq] at h
    cases h
  · rw [heq] at h
    cases h
    exact hstays.directories

/-! ## Backends and parts -/

/-- The backend leaves directories and the working directory alone. -/
def Graphics.Stays (σ : Type) [Graphics σ] : Prop :=
  ∀ (w : World σ) (c : Call), w.disk.Stays (w.after c).disk

/-- Parts leave directories and the working directory alone. -/
def Part.Stays (π σ : Type) [Part π σ] : Prop :=
  ∀ (p : π) (frame : Frame) (w : World σ), w.disk.Stays (Part.render p frame w).2.2.disk

/-- Making a picture file leaves directories and the working directory alone. -/
def Image.Library.Stays [Image.Library] : Prop :=
  ∀ (im : Image) (p : Path) (d : Disk), d.Stays (Image.Library.save im p d).2

theorem Image.stays_writeFile (im : Image) (p : Path) (d : Disk) :
    d.Stays (im.writeFile p d).2 := by
  unfold writeFile
  split
  · exact .refl _
  · dsimp only
    split
    · exact .refl _
    · next hwrite => exact .write hwrite

theorem Canvas.stays [Image.Library] (h : Image.Library.Stays) : Graphics.Stays Canvas := by
  intro w c
  cases c with
  | loadTexture p =>
    show w.disk.Stays (loadTexture p w).2.disk
    unfold loadTexture
    split
    · exact .refl _
    · split
      · exact .refl _
      · exact .refl _
  | loadShader p stage =>
    show w.disk.Stays (loadShader p stage w).2.disk
    unfold loadShader
    split
    · exact .refl _
    · split
      · exact .refl _
      · exact .refl _
  | capture p => exact h (w.gfx.surface .framebuffer).toImage p w.disk
  | _ => exact .refl _

theorem Scene.stays [Graphics σ] (h : Graphics.Stays σ) : Part.Stays Scene σ :=
  fun _ _ w => h w _

end DemoReel
