import SnpTestbed.Product

/-!
# Products behind their masked signature word

The mask hides the stepping, so the masked word of a product is that of its line, and
the line is recovered from it. The word of an unknown line is zero, which no known line
has. Only what a word shows behind the mask decides its line (`line_ofSignature_congr`),
so a word that goes around the masked word of a product, with anything in the bits that
the mask hides, belongs to that product; and only its low nibble tells the stepping.
-/
namespace SnpTestbed.Product

variable {product : Product} {word other : UInt32}

/-- Bits that a mask hides do not show behind it. -/
theorem or_and_of_hidden {word low mask : UInt32} (hidden : low &&& mask = 0) :
    (word ||| low) &&& mask = word &&& mask := by
  have hiddenBits : low.toBitVec &&& mask.toBitVec = 0#32 := congrArg UInt32.toBitVec hidden
  apply UInt32.toBitVec_inj.mp
  rw [UInt32.toBitVec_and, UInt32.toBitVec_or, UInt32.toBitVec_and]
  ext index inside
  have hiddenBit := congrArg (fun bits => bits[index]) hiddenBits
  simp only [BitVec.getElem_and, BitVec.getElem_or, BitVec.getElem_zero] at hiddenBit ⊢
  rw [Bool.and_or_distrib_right, hiddenBit, Bool.or_false]

/-- The masked word of a product does not tell its stepping. -/
theorem maskedSignature_eq (line : ProductLine) (stepping : Option UInt32) :
    maskedSignature ⟨line, stepping⟩ = maskedSignature ⟨line, none⟩ := by
  unfold maskedSignature
  cases line.familyModel? with
  | none => rfl
  | some familyModel =>
    obtain ⟨family, model⟩ := familyModel
    have hidden (level : UInt32) : (level &&& 0xF) &&& signatureMask = 0 := by
      rw [UInt32.and_assoc, show (0xF : UInt32) &&& signatureMask = 0 by decide, UInt32.and_zero]
    simp only [signatureWord, or_and_of_hidden (hidden _)]

/-- The masked word of a product tells its line. -/
theorem line_ofSignature_maskedSignature (product : Product) :
    (ofSignature product.maskedSignature).line = product.line := by
  obtain ⟨line, stepping⟩ := product
  rw [maskedSignature_eq]
  cases line with
  | _ => rfl

/-- A masked word is behind the mask already. -/
theorem maskedSignature_and_signatureMask (product : Product) :
    product.maskedSignature &&& signatureMask = product.maskedSignature := by
  unfold maskedSignature
  cases product.line.familyModel? with
  | none => exact UInt32.zero_and
  | some familyModel => rw [UInt32.and_assoc, UInt32.and_self]

/-- A masked word leaves the nibble of the stepping free. -/
theorem maskedSignature_and_nibble (product : Product) :
    product.maskedSignature &&& 0xF = 0 := by
  rw [← maskedSignature_and_signatureMask, UInt32.and_assoc,
    show signatureMask &&& (0xF : UInt32) = 0 by decide, UInt32.and_zero]

/-- The line of a word depends on nothing but what shows behind the mask. -/
theorem line_ofSignature_congr (same : word &&& signatureMask = other &&& signatureMask) :
    (ofSignature word).line = (ofSignature other).line := by
  simp only [ofSignature, same]

/-- A word that shows the masked word of a product has its line. -/
theorem line_ofSignature_of_shown (shown : product.maskedSignature = word &&& signatureMask) :
    (ofSignature word).line = product.line := by
  rw [← line_ofSignature_maskedSignature product]
  apply line_ofSignature_congr
  rw [maskedSignature_and_signatureMask, shown]

/-- A word of a known line shows the masked word of that line. -/
theorem maskedSignature_ofSignature (known : (ofSignature word).line ≠ .unknown) :
    (ofSignature word).maskedSignature = word &&& signatureMask := by
  let shows (line : ProductLine) : Bool := maskedSignature ⟨line, none⟩ == word &&& signatureMask
  have line : (ofSignature word).line = (ProductLine.known.find? shows).getD .unknown := rfl
  cases found : ProductLine.known.find? shows with
  | none =>
    rw [found] at line
    exact absurd line known
  | some first =>
    rw [found] at line
    have shown : shows first = true := List.find?_some found
    have plain := maskedSignature_eq (ofSignature word).line (ofSignature word).stepping
    rw [plain, line]
    exact beq_iff_eq.mp shown

/-- The words of an unknown line are those that show no known line's. -/
theorem line_ofSignature_ne_unknown_iff :
    (ofSignature word).line ≠ .unknown ↔
      ∃ product : Product, product.line ≠ .unknown ∧
        product.maskedSignature = word &&& signatureMask := by
  constructor
  · intro known
    exact ⟨ofSignature word, known, maskedSignature_ofSignature known⟩
  · rintro ⟨product, known, shown⟩
    rwa [line_ofSignature_of_shown shown]

/-- Whatever stands in the bits that the mask hides, the word of a product has its line, and the
stepping of the low nibble. -/
theorem ofSignature_maskedSignature_or (product : Product) {noise : UInt32}
    (hidden : noise &&& signatureMask = 0) :
    ofSignature (product.maskedSignature ||| noise) = ⟨product.line, some (noise &&& 0xF)⟩ := by
  have line : (ofSignature (product.maskedSignature ||| noise)).line = product.line := by
    apply line_ofSignature_of_shown
    rw [or_and_of_hidden hidden, maskedSignature_and_signatureMask]
  have nibble : (product.maskedSignature ||| noise) &&& 0xF = noise &&& 0xF := by
    rw [UInt32.or_comm, or_and_of_hidden (maskedSignature_and_nibble product)]
  rw [← line, ← nibble]
  rfl

/-- Masked signature words and products agree in both directions. A product is found again in its
masked word with any noise in the bits that the mask hides, the stepping being read off the noise;
the masked word itself does not tell a stepping. A word gives back what it shows behind the mask if
its line is known and zero if not; and its line is known exactly if it shows the masked word of a
known product, whose line it then is. -/
theorem signature_identifies :
    (∀ (product : Product) (noise : UInt32), noise &&& 0x0FFF0FF0 = 0 →
      ofSignature (product.maskedSignature ||| noise) =
        ⟨product.line, some (noise &&& 0xF)⟩) ∧
    (∀ (line : ProductLine) (stepping otherStepping : Option UInt32),
      maskedSignature ⟨line, stepping⟩ = maskedSignature ⟨line, otherStepping⟩) ∧
    (∀ word : UInt32, (ofSignature word).maskedSignature =
      if (ofSignature word).line = .unknown then 0 else word &&& 0x0FFF0FF0) ∧
    (∀ word : UInt32, (ofSignature word).line ≠ .unknown ↔
      ∃ product : Product, product.line ≠ .unknown ∧
        product.maskedSignature = word &&& 0x0FFF0FF0) ∧
    ∀ (word : UInt32) (product : Product), product.maskedSignature = word &&& 0x0FFF0FF0 →
      product.line = (ofSignature word).line := by
  refine ⟨fun product noise hidden => ofSignature_maskedSignature_or product hidden,
    fun line stepping otherStepping => ?steppings, fun word => ?back,
    fun word => line_ofSignature_ne_unknown_iff,
    fun word product shown => (line_ofSignature_of_shown shown).symm⟩
  case steppings =>
    rw [maskedSignature_eq line stepping, maskedSignature_eq line otherStepping]
  case back =>
    by_cases unknown : (ofSignature word).line = .unknown
    · rw [if_pos unknown, maskedSignature, unknown]
      rfl
    · rw [if_neg unknown]
      exact maskedSignature_ofSignature unknown

theorem signature_identifies_noisyTurin :
    let turin : Product := ⟨.turin, some 0x25⟩
    let noise : UInt32 := 0xF000F00B
    noise &&& 0x0FFF0FF0 = 0 ∧
      ofSignature (turin.maskedSignature ||| noise) = ⟨.turin, some 0xB⟩ ∧
      turin.maskedSignature = 0xF0B0FF2B &&& 0x0FFF0FF0 ∧
      (ofSignature 0xF0B0FF2B).line = .turin := by
  intro turin noise
  obtain ⟨found, _, _, _, unique⟩ := signature_identifies
  have hidden : noise &&& 0x0FFF0FF0 = 0 := by decide
  have stepping : noise &&& 0xF = 0xB := by decide
  have shown : turin.maskedSignature = 0xF0B0FF2B &&& 0x0FFF0FF0 := by decide
  have again := found turin noise hidden
  rw [stepping] at again
  exact ⟨hidden, again, shown, (unique 0xF0B0FF2B turin shown).symm⟩

end SnpTestbed.Product
