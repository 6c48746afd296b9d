import DemoReel.Json.Standard
import DemoReel.Proofs.Fallible
import DemoReel.Proofs.Json.Values

/-!
# The library keeps the laws

What is built of numbers, texts and truth values has a text, and what is looked for in it is there.
Main statement: the library that reads and writes by the grammar does what is documented of
libraries for JSON (`standard_lawful`).
-/

namespace DemoReel.Json

instance (x : Float32) : Decidable (standard.Exact x) :=
  inferInstanceAs (Decidable ((Value.ofBinary32 x).binary32? = some x))

namespace Value

theorem writable_ofBinary32 (x : Float32) : (ofBinary32 x).Writable := by
  unfold ofBinary32
  split
  · next l hl => exact .number (Lexeme.wellFormed_ofBinary32? hl)
  · exact .null

theorem writable_of_built {v : standard.Data} (h : standard.Built v) : Writable v := by
  induction h with
  | bool b => exact .bool b
  | string s => exact .string s
  | int i => exact .number (Lexeme.wellFormed_ofInt i)
  | binary32 x => exact writable_ofBinary32 x
  | list _ ih => exact .array ih
  | fields _ ih => exact .object ih

theorem integer?_ofInt {low high i : Int} (hnonneg : 0 ≤ i) (h64 : i ≤ Number.maxUInt64)
    (hlow : low ≤ i) (hhigh : i ≤ high) :
    (Value.number (.ofInt i)).integer? low high = some i := by
  obtain ⟨n, rfl⟩ := Int.eq_ofNat_of_zero_le hnonneg
  simp [integer?, Lexeme.value?_ofInt (Int.ofNat_le.1 h64), hlow, hhigh]

/-- The known fields are those of the record if each of its names stands for one. -/
theorem fields?_ofFields {fs : List (String × Value)} {names : List String}
    (hnames : fs.map Prod.fst = names) (hnodup : names.Nodup) :
    (ofFields fs).fields? names = some fs := by
  have hread : (fs.map fun f => (some f.1, f.2)).mapM
      (fun f : Option String × Value => f.1.bind fun k => some (k, f.2)) = some fs :=
    mapM_map_eq_self fun _ _ => rfl
  have hknown : fs.filter (fun f => f.1 ∈ names) = fs := by
    rw [List.filter_eq_self]
    intro f hf
    rw [← hnames]
    exact decide_eq_true (List.mem_map_of_mem hf)
  calc (ofFields fs).fields? names
      = ((fs.map fun f => (some f.1, f.2)).mapM
          fun f : Option String × Value => f.1.bind fun k => some (k, f.2)).bind fun fs =>
        let known := fs.filter fun f => f.1 ∈ names
        (guard (known.map (·.1)).Nodup : Option Unit).bind fun _ => some known := rfl
    _ = some fs := by simp [hread, hknown, hnames, hnodup]

end Value

theorem standard_lawful : standard.Lawful where
  read_write h := (Value.writable_of_built h).ofText?_text
  bool _ := rfl
  text _ := rfl
  word _ := rfl
  integer := Value.integer?_ofInt
  list _ := rfl
  fields := Value.fields?_ofFields
  infinite {x} h := by
    show Value.ofBinary32 x = .null
    rw [Value.ofBinary32, Lexeme.ofBinary32?_eq_none_iff.2 h]
  null := rfl

end DemoReel.Json
