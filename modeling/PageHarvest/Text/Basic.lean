namespace PageHarvest.Text

/-- The characters that Unicode calls white space. -/
def isBlank (c : Char) : Bool :=
  let n := c.toNat
  (9 ≤ n && n ≤ 13) || n == 0x20 || n == 0x85 || n == 0xA0 || n == 0x1680 ||
    (0x2000 ≤ n && n ≤ 0x200A) || n == 0x2028 || n == 0x2029 || n == 0x202F || n == 0x205F ||
    n == 0x3000

def isControl (c : Char) : Bool :=
  c.toNat < 0x20 || (0x7F ≤ c.toNat && c.toNat ≤ 0x9F)

def dropTrailing (p : Char → Bool) (s : List Char) : List Char :=
  (s.reverse.dropWhile p).reverse

def trim (s : List Char) : List Char :=
  dropTrailing isBlank (s.dropWhile isBlank)

/-- The pieces between separators, so `n` separators give `n + 1` pieces. -/
def fields (sep : Char → Bool) : List Char → List (List Char)
  | [] => [[]]
  | c :: r =>
    if sep c then [] :: fields sep r
    else match fields sep r with
      | [] => [[c]]
      | f :: fs => (c :: f) :: fs

def runs (sep : Char → Bool) (s : List Char) : List (List Char) :=
  (fields sep s).filter (!·.isEmpty)

def words (s : List Char) : List (List Char) :=
  runs isBlank s

def joinWith (sep : String) (parts : List (List Char)) : List Char :=
  sep.toList.intercalate parts

def allBlank (s : String) : Bool :=
  s.toList.all isBlank

def trimmed (s : String) : String :=
  String.ofList (trim s.toList)

theorem fields_ne_nil (sep : Char → Bool) (s : List Char) : fields sep s ≠ [] := by
  cases s with
  | nil => simp [fields]
  | cons c r =>
    simp only [fields]
    split
    · simp
    · split <;> simp

def dropReturn (line : List Char) : List Char :=
  match line.getLast? with
  | some '\r' => line.dropLast
  | _ => line

/--
The lines of a text. A line feed ends a line together with a carriage return before it; a text
that ends with a line feed has no empty last line.
-/
def lines (s : List Char) : List (List Char) :=
  let pieces := fields (· == '\n') s
  pieces.dropLast.map dropReturn ++ (pieces.getLast?.toList.filter (!·.isEmpty))

/-- Whether `needle` stands somewhere in the text. -/
def contains (needle : List Char) : List Char → Bool
  | [] => needle.isEmpty
  | c :: r => needle.isPrefixOf (c :: r) || contains needle r

def cut? (needle : List Char) : List Char → Option (List Char × List Char)
  | [] => if needle.isEmpty then some ([], []) else none
  | c :: r =>
    if needle.isPrefixOf (c :: r) then some ([], (c :: r).drop needle.length)
    else (cut? needle r).map fun (before, after) => (c :: before, after)

theorem length_dropWhile_le (p : Char → Bool) (s : List Char) :
    (s.dropWhile p).length ≤ s.length :=
  (List.dropWhile_suffix p).length_le

def byteLength : List Char → Nat
  | [] => 0
  | c :: r => c.utf8Size + byteLength r

@[simp] theorem byteLength_append (s t : List Char) :
    byteLength (s ++ t) = byteLength s + byteLength t := by
  induction s with
  | nil => simp [byteLength]
  | cons c r ih => simp [byteLength, ih, Nat.add_assoc]

theorem byteLength_eq_utf8ByteSize (s : List Char) :
    byteLength s = (String.ofList s).utf8ByteSize := by
  induction s with
  | nil => rfl
  | cons c r ih =>
    have split : String.ofList (c :: r) = String.singleton c ++ String.ofList r := by
      rw [String.singleton_eq_ofList, ← String.ofList_append]
      rfl
    rw [split, String.utf8ByteSize_append, String.utf8ByteSize_singleton, byteLength, ih]

end PageHarvest.Text
