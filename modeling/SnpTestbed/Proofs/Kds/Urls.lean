import SnpTestbed.Kds
import SnpTestbed.Proofs.FirstFailure
import SnpTestbed.Proofs.Text.Hex

/-!
# URLs of the key service identify what is kept under them

A URL is its parts with a separator behind each of them that the part does not contain: a
product line's name ends at a slash, a chip's digits at a question mark, and a level's
digits at an ampersand. So `part_inj` reads the parts off a URL one by one, and things that
differ in a part have different URLs. What a chain's URL has behind the line is no chip's
part, since it has no question mark.
-/
namespace SnpTestbed

namespace ProductLine

variable {line other : ProductLine}

/-- No two lines go by the same name, and none by the lack of one. -/
theorem serviceName?_inj : line.serviceName? = other.serviceName? ↔ line = other := by
  constructor
  · intro same
    cases line <;> cases other <;> first | rfl | exact absurd same (by decide)
  · rintro rfl
    rfl

theorem serviceName?_eq_none_iff : line.serviceName? = none ↔ line = .unknown :=
  @serviceName?_inj line .unknown

theorem slash_notMem_of_serviceName? {name : String} (named : line.serviceName? = some name) :
    '/' ∉ name.toList := by
  cases line with
  | unknown => contradiction
  | milan | genoa | turin =>
    cases named
    decide

end ProductLine

namespace Kds

/-- A part that does not contain its separator can be told from what follows. -/
theorem part_inj {separator : Char} {left right rest rest' : List Char}
    (leftFree : separator ∉ left) (rightFree : separator ∉ right) :
    left ++ separator :: rest = right ++ separator :: rest' ↔ left = right ∧ rest = rest' := by
  constructor
  · intro same
    induction left generalizing right with
    | nil =>
      cases right with
      | nil => exact ⟨rfl, List.tail_eq_of_cons_eq same⟩
      | cons first later =>
        have early : separator = first := List.head_eq_of_cons_eq same
        exact absurd (early ▸ List.mem_cons_self) rightFree
    | cons first later hypothesis =>
      cases right with
      | nil =>
        have early : first = separator := List.head_eq_of_cons_eq same
        exact absurd (early ▸ List.mem_cons_self) leftFree
      | cons other others =>
        obtain ⟨firsts, further⟩ := List.cons_eq_cons.mp same
        obtain ⟨parts, rests⟩ := hypothesis (List.not_mem_of_not_mem_cons leftFree)
          (List.not_mem_of_not_mem_cons rightFree) further
        exact ⟨List.cons_eq_cons.mpr ⟨firsts, parts⟩, rests⟩
  · rintro ⟨rfl, rfl⟩
    rfl

section Levels

/-- A level is written as its decimal digits, with a zero before a single one. -/
theorem toList_levelText (level : UInt8) :
    (levelText level).toList =
      List.replicate (2 - (Nat.toDigits 10 level.toNat).length) '0' ++
        Nat.toDigits 10 level.toNat := by
  have positive := Nat.length_toDigits_pos (b := 10) (n := level.toNat)
  have text : (toString level.toNat).toList = Nat.toDigits 10 level.toNat := by
    rw [Nat.toString_eq_repr, Nat.toList_repr]
  have long : (toString level.toNat).length = (Nat.toDigits 10 level.toNat).length := by
    rw [← String.length_toList, text]
  simp only [levelText, long]
  split
  · next short =>
    have single : 2 - (Nat.toDigits 10 level.toNat).length = 1 := by omega
    rw [single, String.toList_append, text]
    rfl
  · next padded =>
    have none : 2 - (Nat.toDigits 10 level.toNat).length = 0 := by omega
    rw [none, text]
    rfl

/-- Zeros in front do not change the number that digits stand for, so the level is read back. -/
theorem ofDigitChars_levelText (level : UInt8) :
    Nat.ofDigitChars 10 (levelText level).toList 0 = level.toNat := by
  rw [toList_levelText, Nat.ofDigitChars_append, Nat.ofDigitChars_replicate_zero, Nat.mul_zero,
    Nat.ofDigitChars_ten_toDigits]

theorem levelText_inj {left right : UInt8} :
    (levelText left).toList = (levelText right).toList ↔ left = right := by
  constructor
  · intro same
    apply UInt8.toNat_inj.mp
    rw [← ofDigitChars_levelText left, same, ofDigitChars_levelText right]
  · rintro rfl
    rfl

theorem ampersand_notMem_levelText (level : UInt8) : '&' ∉ (levelText level).toList := by
  rw [toList_levelText, List.mem_append]
  rintro (padding | digits)
  · exact absurd (List.eq_of_mem_replicate padding) (by decide)
  · have isDigit := Nat.isDigit_of_mem_toDigits (by decide) (by decide) digits
    contradiction

/-- A level in a query, under its label. -/
def labelled (label : String) (level : UInt8) : List Char :=
  label.toList ++ (levelText level).toList

theorem labelled_inj {label : String} {left right : UInt8} :
    labelled label left = labelled label right ↔ left = right := by
  rw [labelled, labelled, List.append_cancel_left_eq, levelText_inj]

theorem labelled_append_inj {label : String} {left right : UInt8} {rest rest' : List Char} :
    labelled label left ++ '&' :: rest = labelled label right ++ '&' :: rest' ↔
      left = right ∧ rest = rest' := by
  rw [labelled, labelled, List.append_assoc, List.append_assoc, List.append_cancel_left_eq,
    part_inj (ampersand_notMem_levelText left) (ampersand_notMem_levelText right), levelText_inj]

/-- A query from behind its question mark on. -/
def queryFields (levels : PatchLevels) : List Char :=
  labelled "blSPL=" levels.bootloader ++ '&' :: (labelled "teeSPL=" levels.tee ++ '&' ::
    (labelled "snpSPL=" levels.snp ++ '&' :: labelled "ucodeSPL=" levels.microcode))

theorem toList_levelQuery (levels : PatchLevels) :
    (levelQuery levels).toList = '?' :: queryFields levels := by
  unfold levelQuery queryFields
  simp only [labelled, String.toList_append, List.append_assoc]
  rfl

theorem queryFields_inj {left right : PatchLevels} :
    queryFields left = queryFields right ↔ left = right := by
  cases left
  cases right
  simp only [queryFields, labelled_append_inj, labelled_inj, PatchLevels.mk.injEq]

end Levels

variable {product other : Product} {chip otherChip : Bytes} {levels otherLevels : PatchLevels}
  {left right : String}

/-- What a URL of the service begins with, up to the name of a product line. -/
def root : List Char := (site ++ keyPath ++ "/").toList

theorem exists_linePath_iff :
    (∃ path, linePath product = .ok path) ↔ product.line ≠ .unknown := by
  rw [ne_eq, ← ProductLine.serviceName?_eq_none_iff]
  unfold linePath
  cases product.line.serviceName? with
  | none => exact iff_of_false nofun fun named => named rfl
  | some name => exact iff_of_true ⟨_, rfl⟩ nofun

theorem toList_of_linePath {path : String} (made : linePath product = .ok path) :
    ∃ name, product.line.serviceName? = some name ∧
      path.toList = root ++ (name.toList ++ ['/']) := by
  unfold linePath at made
  cases named : product.line.serviceName? with
  | none =>
    rw [named] at made
    contradiction
  | some name =>
    rw [named] at made
    injection made with made
    refine ⟨name, rfl, ?_⟩
    rw [← made, String.toList_append, String.toList_append, root, List.append_assoc]
    rfl

theorem toList_of_map {added : String} (made : (linePath product).map (· ++ added) = .ok left) :
    ∃ name, product.line.serviceName? = some name ∧
      left.toList = root ++ (name.toList ++ '/' :: added.toList) := by
  cases path : linePath product with
  | error error =>
    rw [path] at made
    contradiction
  | ok text =>
    rw [path] at made
    injection made with made
    obtain ⟨name, named, characters⟩ := toList_of_linePath path
    refine ⟨name, named, ?_⟩
    rw [← made, String.toList_append, characters]
    simp only [List.append_assoc, List.singleton_append]

/-- URLs with something added to the path of a line have the same line and the same added. -/
theorem map_inj {added otherAdded : String}
    (made : (linePath product).map (· ++ added) = .ok left)
    (madeToo : (linePath other).map (· ++ otherAdded) = .ok right) :
    left = right ↔ product.line = other.line ∧ added = otherAdded := by
  obtain ⟨name, named, characters⟩ := toList_of_map made
  obtain ⟨otherName, namedToo, charactersToo⟩ := toList_of_map madeToo
  rw [← String.toList_inj, characters, charactersToo, List.append_cancel_left_eq,
    part_inj (ProductLine.slash_notMem_of_serviceName? named)
      (ProductLine.slash_notMem_of_serviceName? namedToo),
    String.toList_inj, String.toList_inj, ← ProductLine.serviceName?_inj, named, namedToo,
    Option.some_inj]

theorem question_notMem_encode (bytes : Bytes) : '?' ∉ (Hex.encode bytes).toList := by
  intro inside
  have table : ∀ value : Fin 16, '?' ≠ Hex.digit value := by decide
  obtain ⟨value, isDigit⟩ := Hex.exists_digit_of_mem_encode inside
  exact table value isDigit

/-- A chip and its levels can be read off what is added for them. -/
theorem keyPart_inj :
    Hex.encode chip ++ levelQuery levels = Hex.encode otherChip ++ levelQuery otherLevels ↔
      chip = otherChip ∧ levels = otherLevels := by
  rw [← String.toList_inj, String.toList_append, String.toList_append, toList_levelQuery,
    toList_levelQuery, part_inj (question_notMem_encode chip) (question_notMem_encode otherChip),
    String.toList_inj, Hex.encode_inj, queryFields_inj]

/-- What is added for a chain is added for no chip. -/
theorem keyPart_ne_chainName : Hex.encode chip ++ levelQuery levels ≠ chainName := by
  intro same
  have asked : '?' ∈ (Hex.encode chip ++ levelQuery levels).toList := by
    rw [String.toList_append, toList_levelQuery]
    exact List.mem_append_right _ List.mem_cons_self
  rw [same] at asked
  exact absurd asked (by decide)

section Raw

/-- The levels of a raw version are its bytes, counted from the least significant on. -/
theorem ofRaw_eq (raw : UInt64) :
    PatchLevels.ofRaw raw =
      { bootloader := UInt8.ofNat (raw.toNat / Nat.pow 256 0)
        tee := UInt8.ofNat (raw.toNat / Nat.pow 256 1)
        snp := UInt8.ofNat (raw.toNat / Nat.pow 256 6)
        microcode := UInt8.ofNat (raw.toNat / Nat.pow 256 7) } := by
  have shifted (count : UInt64) (small : count.toNat < 64) :
      (raw >>> count).toUInt8 = UInt8.ofNat (raw.toNat / Nat.pow 2 count.toNat) := by
    apply UInt8.toNat_inj.mp
    rw [UInt64.toNat_toUInt8, UInt64.toNat_shiftRight, Nat.mod_eq_of_lt small,
      Nat.shiftRight_eq_div_pow, UInt8.toNat_ofNat']
    rfl
  have lowest : raw.toUInt8 = UInt8.ofNat (raw.toNat / Nat.pow 256 0) := by
    apply UInt8.toNat_inj.mp
    rw [UInt64.toNat_toUInt8, UInt8.toNat_ofNat', show Nat.pow 256 0 = 1 from rfl, Nat.div_one]
  rw [PatchLevels.ofRaw, lowest, shifted 8 (by decide), shifted 48 (by decide),
    shifted 56 (by decide)]
  rfl

/-- Raw versions have the same levels if they agree on the four bytes that count. -/
theorem ofRaw_inj {first second : UInt64} :
    PatchLevels.ofRaw first = PatchLevels.ofRaw second ↔
      ∀ index ∈ [0, 1, 6, 7], (LittleEndian.encode 8 first.toNat)[index]? =
        (LittleEndian.encode 8 second.toNat)[index]? := by
  rw [ofRaw_eq, ofRaw_eq, PatchLevels.mk.injEq]
  simp only [List.forall_mem_cons, List.not_mem_nil, false_implies, implies_true, and_true]
  rw [LittleEndian.getElem?_encode (by decide), LittleEndian.getElem?_encode (by decide),
    LittleEndian.getElem?_encode (by decide), LittleEndian.getElem?_encode (by decide),
    LittleEndian.getElem?_encode (by decide), LittleEndian.getElem?_encode (by decide),
    LittleEndian.getElem?_encode (by decide), LittleEndian.getElem?_encode (by decide)]
  simp only [Option.some_inj]

end Raw

theorem keyUrl_inj (made : keyUrl product chip levels = .ok left)
    (madeToo : keyUrl other otherChip otherLevels = .ok right) :
    left = right ↔ product.line = other.line ∧ chip = otherChip ∧ levels = otherLevels := by
  rw [map_inj made madeToo, keyPart_inj]

theorem chainUrl_inj (made : chainUrl product = .ok left) (madeToo : chainUrl other = .ok right) :
    left = right ↔ product.line = other.line := by
  rw [map_inj made madeToo, and_iff_left rfl]

theorem keyUrl_ne_chainUrl (made : keyUrl product chip levels = .ok left)
    (madeToo : chainUrl other = .ok right) : left ≠ right := by
  intro same
  exact keyPart_ne_chainName ((map_inj made madeToo).mp same).2

/-- The URLs of keys are told apart by line, chip and levels, those of chains by line, and no key
has the URL of a chain. Of a raw version, the four bytes that levels are taken from decide. Every
line but the unknown one has URLs. -/
theorem urls_identify :
    (∀ (product : Product) (chip : Bytes) (levels : PatchLevels),
      (∃ url, keyUrl product chip levels = .ok url) ↔ product.line ≠ .unknown) ∧
    (∀ product : Product, (∃ url, chainUrl product = .ok url) ↔ product.line ≠ .unknown) ∧
    (∀ (product other : Product) (chip otherChip : Bytes) (levels otherLevels : PatchLevels)
      (left right : String), keyUrl product chip levels = .ok left →
      keyUrl other otherChip otherLevels = .ok right →
      (left = right ↔ product.line = other.line ∧ chip = otherChip ∧ levels = otherLevels)) ∧
    (∀ (product other : Product) (left right : String), chainUrl product = .ok left →
      chainUrl other = .ok right → (left = right ↔ product.line = other.line)) ∧
    (∀ (product other : Product) (chip : Bytes) (levels : PatchLevels) (left right : String),
      keyUrl product chip levels = .ok left → chainUrl other = .ok right → left ≠ right) ∧
    ∀ (product : Product) (chip : Bytes) (first second : UInt64) (left right : String),
      keyUrl product chip (.ofRaw first) = .ok left →
      keyUrl product chip (.ofRaw second) = .ok right →
      (left = right ↔ ∀ index ∈ [0, 1, 6, 7], (LittleEndian.encode 8 first.toNat)[index]? =
        (LittleEndian.encode 8 second.toNat)[index]?) := by
  refine ⟨fun product chip levels => ?keys, fun product => ?chains,
    fun product other chip otherChip levels otherLevels left right => keyUrl_inj,
    fun product other left right => chainUrl_inj,
    fun product other chip levels left right => keyUrl_ne_chainUrl,
    fun product chip first second left right made madeToo => ?raw⟩
  case keys =>
    exact FirstFailure.exists_map_iff.trans exists_linePath_iff
  case chains =>
    exact FirstFailure.exists_map_iff.trans exists_linePath_iff
  case raw =>
    rw [keyUrl_inj made madeToo, ofRaw_inj]
    simp only [true_and]

/-- A raw version whose bytes all differ. -/
def unevenVersion : UInt64 := 0x1503040506070201

/-- The raw version with other bytes where no level is taken from. -/
def alikeVersion : UInt64 := 0x1503fffefdfc0201

theorem urls_identify_uneven :
    let turin : Product := ⟨.turin, none⟩
    let stepped : Product := ⟨.turin, some 3⟩
    let levels := PatchLevels.ofRaw unevenVersion
    ∃ url shorter chain, keyUrl turin [0xab, 0x01] levels = .ok url ∧
      keyUrl turin [0xab, 0x01] (.ofRaw alikeVersion) = .ok url ∧
      keyUrl stepped [0xab] levels = .ok shorter ∧ chainUrl stepped = .ok chain ∧
      url ≠ shorter ∧ url ≠ chain := by
  intro turin stepped levels
  obtain ⟨keys, chains, told, _, apart, raw⟩ := urls_identify
  have known : turin.line ≠ .unknown := by decide
  have knownToo : stepped.line ≠ .unknown := by decide
  obtain ⟨url, made⟩ := (keys turin [0xab, 0x01] levels).mpr known
  obtain ⟨alike, madeAlike⟩ := (keys turin [0xab, 0x01] (.ofRaw alikeVersion)).mpr known
  obtain ⟨shorter, madeShorter⟩ := (keys stepped [0xab] levels).mpr knownToo
  obtain ⟨chain, madeChain⟩ := (chains stepped).mpr knownToo
  have same : url = alike :=
    (raw turin [0xab, 0x01] unevenVersion alikeVersion url alike made madeAlike).mpr (by decide)
  have differs : url ≠ shorter := fun same =>
    absurd ((told _ _ _ _ _ _ _ _ made madeShorter).mp same).2.1 (by decide)
  exact ⟨url, shorter, chain, made, same ▸ madeAlike, madeShorter, madeChain, differs,
    apart _ _ _ _ _ _ made madeChain⟩

end Kds

end SnpTestbed
