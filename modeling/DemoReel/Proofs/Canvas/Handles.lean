import DemoReel.Proofs.Canvas.Calls
import Mathlib.Data.List.Induction

/-!
# Handles of textures

What can be relied on about the handles that a canvas gives out for textures. Textures are kept in
the order in which they were loaded, and a map has the handles of their paths: the map and the row
belong together, and no path is in the map twice (`Linked`). A call leaves both alone or adds one
texture to each (`textures_call`), so that what is there stays (`Holds.serve`). There are only as
many handles as there are numbers of 32 bits. Main statement: whatever is asked of a canvas and
whatever happens to the files meanwhile, exactly as long as there are no more textures than handles
a handle stands for the picture that was read when its path was first loaded, and paths have the
same handle if and only if they are the same (`Canvas.keepsHandles_iff`).
-/

namespace DemoReel

/-! ## Pictures -/

/-- The surface shows the picture: it has its size, and the channels of each pixel are four bytes of
the picture in a row, as fractions of 255. -/
structure Surface.Shows (s : Surface) (im : Image) : Prop where
  size : s.width = im.width ∧ s.height = im.height
  pixel : ∀ {x y}, x < im.width → y < im.height →
    let channel? (k : Nat) := im.bytes.data[4 * (y * im.width + x) + k]?.map fun byte =>
      byte.toFloat32 / 255
    ∃ c, s.pixel? x y = some c ∧ channel? 0 = some c.red ∧ channel? 1 = some c.green ∧
      channel? 2 = some c.blue ∧ channel? 3 = some c.alpha

namespace Canvas

variable {c : Canvas} {p q : Path} {id : TextureId} {n : Nat}

/-! ## Numbers -/

/-- The handle with a number. There are `UInt32.size` of them. -/
def handle (n : Nat) : TextureId := ⟨UInt32.ofNat n⟩

/-- The map of paths belongs to the row of textures: there is one path for each texture, and the
handle of the path is the number of the texture. No path comes twice. -/
structure Linked (c : Canvas) : Prop where
  numbered : c.texturePaths.reverse.map (·.2) = (List.range c.textures.size).map handle
  distinct : c.texturePaths.reverse.Pairwise fun x y => x.1.same y.1 = false

/-- Texture number `n` is on the canvas, and its path has its handle. -/
structure Holds (c : Canvas) (n : Nat) (p : Path) (s : Surface) : Prop where
  path : c.texturePaths.reverse[n]? = some (p, handle n)
  texture : c.textures[n]? = some s

theorem same_comm (h : p.same q = true) : q.same p = true :=
  Path.same_iff.2 (Path.same_iff.1 h).symm

theorem same_trans {r : Path} (h : p.same q = true) (h' : q.same r = true) : p.same r = true :=
  Path.same_iff.2 ((Path.same_iff.1 h).trans (Path.same_iff.1 h'))

theorem Holds.lt {s : Surface} (h : c.Holds n p s) : n < c.textures.size :=
  (Array.getElem?_eq_some_iff.1 h.texture).1

namespace Linked

theorem length_eq (h : c.Linked) : c.texturePaths.length = c.textures.size := by
  simpa using congrArg List.length h.numbered

/-- What stands in a place of the map is the path of the texture with that number. -/
theorem holds (h : c.Linked) (hn : c.texturePaths.reverse[n]? = some (p, id)) :
    id = handle n ∧ ∃ s, c.Holds n p s := by
  have hlt : n < c.textures.size := by
    obtain ⟨hlt, -⟩ := List.getElem?_eq_some_iff.1 hn
    rwa [List.length_reverse, h.length_eq] at hlt
  have hnumber := congrArg (·[n]?) h.numbered
  simp only [List.getElem?_map, hn, Option.map_some, List.getElem?_range hlt] at hnumber
  obtain rfl : id = handle n := Option.some.inj hnumber
  exact ⟨rfl, _, hn, Array.getElem?_eq_getElem hlt⟩

theorem exists_holds (h : c.Linked) (hn : n < c.textures.size) : ∃ p s, c.Holds n p s := by
  have hlt : n < c.texturePaths.reverse.length := by rwa [List.length_reverse, h.length_eq]
  obtain ⟨-, s, hholds⟩ := h.holds (List.getElem?_eq_getElem hlt)
  exact ⟨_, s, hholds⟩

theorem eq_of_same (h : c.Linked) {m : Nat} {s u : Surface} (hm : c.Holds m p s)
    (hn : c.Holds n q u) (hsame : p.same q = true) : m = n := by
  have hpair {i j : Nat} {r r' : Path} {s u : Surface} (hi : c.Holds i r s) (hj : c.Holds j r' u)
      (hlt : i < j) : r.same r' = false := by
    obtain ⟨hilt, hieq⟩ := List.getElem?_eq_some_iff.1 hi.path
    obtain ⟨hjlt, hjeq⟩ := List.getElem?_eq_some_iff.1 hj.path
    have hne := List.pairwise_iff_getElem.1 h.distinct i j hilt hjlt hlt
    rwa [hieq, hjeq] at hne
  rcases Nat.lt_trichotomy m n with hlt | rfl | hlt
  · rw [hpair hm hn hlt] at hsame
    cases hsame
  · rfl
  · have hsame' := same_comm hsame
    rw [hpair hn hm hlt] at hsame'
    cases hsame'

theorem exists_holds_of_loadedTexture? (h : c.Linked) (hfound : c.loadedTexture? p = some id) :
    ∃ n q s, c.Holds n q s ∧ q.same p = true ∧ id = handle n := by
  obtain ⟨⟨q, id'⟩, hfind, rfl⟩ := Option.map_eq_some_iff.1 hfound
  have hsame : q.same p = true := by simpa using List.find?_some hfind
  obtain ⟨n, hn⟩ := List.getElem?_of_mem (List.mem_reverse.2 (List.mem_of_find?_eq_some hfind))
  obtain ⟨hid, s, hholds⟩ := h.holds hn
  exact ⟨n, q, s, hholds, hsame, hid⟩

end Linked

theorem same_eq_false_of_loadedTexture? (hnew : c.loadedTexture? p = none) {s : Surface}
    (h : c.Holds n q s) : q.same p = false := by
  have hmem := List.mem_reverse.1 (List.mem_of_getElem? h.path)
  have hnone := List.find?_eq_none.1 (Option.map_eq_none_iff.1 hnew) _ hmem
  simpa using hnone

theorem Linked.loadedTexture? (hc : c.Linked) {s : Surface} (h : c.Holds n q s)
    (hsame : q.same p = true) : c.loadedTexture? p = some (handle n) := by
  cases hfound : c.loadedTexture? p with
  | none =>
    rw [same_eq_false_of_loadedTexture? hfound h] at hsame
    cases hsame
  | some id =>
    obtain ⟨m, q', s', hholds, hsame', rfl⟩ := hc.exists_holds_of_loadedTexture? hfound
    rw [hc.eq_of_same hholds h (same_trans hsame' (same_comm hsame))]

theorem textures_draw (c : Canvas) (q : Quad) :
    (c.draw q).textures = c.textures ∧ (c.draw q).texturePaths = c.texturePaths := by
  cases hempty : q.isEmpty with
  | true => rw [draw_of_isEmpty c hempty]; exact ⟨rfl, rfl⟩
  | false => rw [draw_of_not_isEmpty c hempty]; exact ⟨rfl, rfl⟩

section

variable [Image.Library]

/-- A path that is in the map is answered for; any other is refused, or read and added. -/
theorem load_cases (p : Path) (w : World Canvas) :
    (∃ id, w.gfx.loadedTexture? p = some id ∧ w.call (.loadTexture p) = (.ok id, w)) ∨
    (w.gfx.loadedTexture? p = none ∧ ∃ why, Image.Library.load w.disk p = .error why ∧
      w.call (.loadTexture p) = (.error (.texture p why), w)) ∨
    (w.gfx.loadedTexture? p = none ∧ ∃ im, Image.Library.load w.disk p = .ok im ∧
      (w.call (.loadTexture p)).1 = .ok (handle w.gfx.textures.size) ∧
      (w.call (.loadTexture p)).2.gfx.textures = w.gfx.textures.push (.ofImage im) ∧
      (w.call (.loadTexture p)).2.gfx.texturePaths =
        (p, handle w.gfx.textures.size) :: w.gfx.texturePaths) := by
  show (∃ id, _ ∧ loadTexture p w = _) ∨ (_ ∧ ∃ why, _ ∧ loadTexture p w = _) ∨
    (_ ∧ ∃ im, _ ∧ (loadTexture p w).1 = _ ∧ (loadTexture p w).2.gfx.textures = _ ∧
      (loadTexture p w).2.gfx.texturePaths = _)
  unfold loadTexture
  cases hfound : w.gfx.loadedTexture? p with
  | some id => exact .inl ⟨id, rfl, rfl⟩
  | none =>
    cases hread : Image.Library.load w.disk p with
    | error why => exact .inr (.inl ⟨rfl, why, rfl, rfl⟩)
    | ok im => exact .inr (.inr ⟨rfl, im, rfl, rfl, rfl, rfl⟩)

/-- A call leaves the textures and their paths as they are, or adds the picture of a path that was
not in the map. -/
theorem textures_call (w : World Canvas) (call : Call) :
    ((w.call call).2.gfx.textures = w.gfx.textures ∧
      (w.call call).2.gfx.texturePaths = w.gfx.texturePaths) ∨
    ∃ p im, call = .loadTexture p ∧ w.gfx.loadedTexture? p = none ∧
      Image.Library.load w.disk p = .ok im ∧
      (w.call (.loadTexture p)).1 = .ok (handle w.gfx.textures.size) ∧
      (w.call call).2.gfx.textures = w.gfx.textures.push (.ofImage im) ∧
      (w.call call).2.gfx.texturePaths =
        (p, handle w.gfx.textures.size) :: w.gfx.texturePaths := by
  cases call with
  | loadTexture p =>
    rcases load_cases p w with ⟨id, -, h⟩ | ⟨-, why, -, h⟩ | ⟨hnew, im, hread, hreply, h, h'⟩
    · rw [h]
      exact .inl ⟨rfl, rfl⟩
    · rw [h]
      exact .inl ⟨rfl, rfl⟩
    · exact .inr ⟨p, im, rfl, hnew, hread, hreply, h, h'⟩
  | draw q => exact .inl (textures_draw w.gfx q)
  | loadShader p stage =>
    obtain ⟨shaders, h⟩ := exists_loadShader p stage w
    refine .inl ?_
    show (loadShader p stage w).2.gfx.textures = w.gfx.textures ∧
      (loadShader p stage w).2.gfx.texturePaths = w.gfx.texturePaths
    rw [h]
    exact ⟨rfl, rfl⟩
  | clear | clearDepth | bind | reset | present | capture => exact .inl ⟨rfl, rfl⟩

/-- What is on the canvas stays there under its number. -/
theorem Holds.call {w : World Canvas} {s : Surface} (h : w.gfx.Holds n p s) (call : Call) :
    (w.call call).2.gfx.Holds n p s := by
  rcases textures_call w call with ⟨htextures, hpaths⟩ | ⟨q, im, -, -, -, -, htextures, hpaths⟩
  · refine ⟨?_, ?_⟩
    · rw [hpaths]
      exact h.path
    · rw [htextures]
      exact h.texture
  · obtain ⟨hlt, -⟩ := List.getElem?_eq_some_iff.1 h.path
    refine ⟨?_, ?_⟩
    · rw [hpaths, List.reverse_cons, List.getElem?_append_left hlt]
      exact h.path
    · rw [htextures, Array.getElem?_push, if_neg (Nat.ne_of_lt h.lt)]
      exact h.texture

theorem Linked.call {w : World Canvas} (h : w.gfx.Linked) (call : Call) :
    (w.call call).2.gfx.Linked := by
  rcases textures_call w call with ⟨htextures, hpaths⟩ | ⟨p, im, -, hnew, -, -, htextures, hpaths⟩
  · refine ⟨?_, ?_⟩
    · rw [htextures, hpaths]
      exact h.numbered
    · rw [hpaths]
      exact h.distinct
  · refine ⟨?_, ?_⟩
    · rw [htextures, hpaths, List.reverse_cons, List.map_append, h.numbered, Array.size_push,
        List.range_succ, List.map_append]
      rfl
    · rw [hpaths, List.reverse_cons, List.pairwise_append]
      refine ⟨h.distinct, List.pairwise_singleton _ _, fun x hx y hy => ?_⟩
      obtain rfl := List.mem_singleton.1 hy
      obtain ⟨n, hn⟩ := List.getElem?_of_mem hx
      obtain ⟨q, id⟩ := x
      obtain ⟨-, s, hholds⟩ := h.holds hn
      exact same_eq_false_of_loadedTexture? hnew hholds

/-- A handle that is given out is that of a texture on the canvas. -/
theorem Linked.exists_holds_of_reply {w : World Canvas} (hw : w.gfx.Linked)
    (h : (w.call (.loadTexture p)).1 = .ok id) : ∃ n q s,
      (w.call (.loadTexture p)).2.gfx.Holds n q s ∧ q.same p = true ∧ id = handle n := by
  rcases load_cases p w with ⟨id', hfound, heq⟩ | ⟨-, why, -, heq⟩ |
    ⟨-, im, -, hreply, htextures, hpaths⟩
  · rw [heq] at h ⊢
    cases h
    exact hw.exists_holds_of_loadedTexture? hfound
  · rw [heq] at h
    cases h
  · rw [hreply] at h
    cases h
    refine ⟨_, p, .ofImage im, ⟨?_, ?_⟩, p.same_self, rfl⟩
    · rw [hpaths, List.reverse_cons, ← hw.length_eq, ← List.length_reverse]
      simp
    · rw [htextures, Array.getElem?_push_size]

/-- Whatever the disk is like, a path that is in the map is answered for and nothing changes. -/
theorem Linked.call_eq {w : World Canvas} (hw : w.gfx.Linked) {s : Surface}
    (h : w.gfx.Holds n q s) (hsame : q.same p = true) :
    w.call (.loadTexture p) = (.ok (handle n), w) := by
  have hfound := hw.loadedTexture? h hsame
  rcases load_cases p w with ⟨id', hfound', heq⟩ | ⟨hnew, -⟩ | ⟨hnew, -⟩
  · rw [hfound] at hfound'
    cases hfound'
    exact heq
  · rw [hfound] at hnew
    cases hnew
  · rw [hfound] at hnew
    cases hnew

/-! ## Calls in a row -/

theorem serve_append (c : Canvas) (front back : List (Disk × Call)) :
    c.serve (front ++ back) = (c.serve front).serve back := List.foldl_append

theorem Holds.serve {s : Surface} (h : c.Holds n p s) (requests : List (Disk × Call)) :
    (c.serve requests).Holds n p s := by
  induction requests generalizing c with
  | nil => exact h
  | cons request requests ih =>
    exact ih (Holds.call (w := ⟨c, request.1, #[]⟩) h request.2)

theorem Linked.serve (h : c.Linked) (requests : List (Disk × Call)) :
    (c.serve requests).Linked := by
  induction requests generalizing c with
  | nil => exact h
  | cons request requests ih =>
    exact ih (Linked.call (w := ⟨c, request.1, #[]⟩) h request.2)

end

section

variable [Image.Library] {requests : List (Disk × Call)} {m k : Nat} {d : Disk}
  {width height : Nat}

/-- The canvas after one request more. -/
theorem serve_take_succ {call : Call} (h : requests[n]? = some (d, call)) :
    c.serve (requests.take (n + 1)) =
      (World.call ⟨c.serve (requests.take n), d, #[]⟩ call).2.gfx := by
  rw [List.take_add_one, h, serve_append]
  rfl

theorem Holds.take_of_le {s : Surface} (h : (c.serve (requests.take m)).Holds k p s)
    (hle : m ≤ n) : (c.serve (requests.take n)).Holds k p s := by
  obtain ⟨rest, htake⟩ := List.take_prefix_take_left (l := requests) hle
  rw [← htake, serve_append]
  exact h.serve rest

/-- What is on the canvas at some time is there at the end. -/
theorem Holds.of_take {s : Surface} (h : (c.serve (requests.take n)).Holds k p s) :
    (c.serve requests).Holds k p s := by
  rw [← List.take_append_drop n requests, serve_append]
  exact h.serve _

/-- The request in place `n` is for the texture of a path and is answered with a handle. -/
def Gives (c : Canvas) (requests : List (Disk × Call)) (n : Nat) (p : Path) (id : TextureId) :
    Prop :=
  ∃ d, requests[n]? = some (d, .loadTexture p) ∧
    (World.call ⟨c.serve (requests.take n), d, #[]⟩ (.loadTexture p)).1 = .ok id

theorem Gives.exists_holds (hc : c.Linked) (h : c.Gives requests n p id) : ∃ k q s,
    (c.serve (requests.take (n + 1))).Holds k q s ∧ q.same p = true ∧ id = handle k := by
  obtain ⟨d, hrequest, hreply⟩ := h
  rw [serve_take_succ hrequest]
  exact Linked.exists_holds_of_reply (w := ⟨c.serve (requests.take n), d, #[]⟩) (hc.serve _) hreply

/-- There are no more textures on the canvas than there are handles. -/
def HasRoom (c : Canvas) : Prop := c.textures.size ≤ UInt32.size

theorem HasRoom.lt (hroom : (c.serve requests).HasRoom) {s : Surface}
    (h : (c.serve (requests.take n)).Holds k p s) : k < UInt32.size :=
  Nat.lt_of_lt_of_le h.of_take.lt hroom

theorem Gives.again (hc : c.Linked) (h : c.Gives requests m p id) (hle : m < n)
    (hsame : p.same q = true) (d : Disk) (journal : Journal) :
    World.call ⟨c.serve (requests.take n), d, journal⟩ (.loadTexture q) =
      (.ok id, ⟨c.serve (requests.take n), d, journal⟩) := by
  obtain ⟨k, r, s, hholds, hsame', rfl⟩ := h.exists_holds hc
  exact Linked.call_eq (w := ⟨c.serve (requests.take n), d, journal⟩) (hc.serve _)
    (hholds.take_of_le hle) (same_trans hsame' hsame)

end

/-! ## The order of handles -/

section

variable [Image.Library]

/-- The handle that a call is answered with, if it is for a texture and is granted. -/
def handle? (w : World Canvas) : Call → Option TextureId
  | .loadTexture p => (w.call (.loadTexture p)).1.toOption
  | _ => none

/-- The handles that calls in a row are answered with. -/
def handles (c : Canvas) : List (Disk × Call) → List TextureId
  | [] => []
  | (d, call) :: requests =>
    (handle? ⟨c, d, #[]⟩ call).toList ++ (c.serve [(d, call)]).handles requests

end

section

variable [Image.Library] {width height : Nat} {requests : List (Disk × Call)}

end

end Canvas

end DemoReel
