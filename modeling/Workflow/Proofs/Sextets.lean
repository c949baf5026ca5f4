import Workflow.Proofs.Texts

/-!
# Sextets

Base64 regroups bytes into digits of six bits. Three bytes are four digits, and at the end one byte
is two digits and two bytes are three, with the unused bits zero and padding up to four. Since a
reader insists on the zero bits and on the padding, each list of bytes has exactly one encoding, and
so has each text, because its UTF-8 form is again the only one.
-/

namespace Workflow.Encoding

namespace Base64

/-! ## Digits -/

theorem value?_digit {value : Nat} (small : value < 64) : value? (digit value) = some value := by
  have all : ∀ value < 64, value? (digit value) = some value := by decide
  exact all value small

/-- Every digit is that of its value. -/
theorem digit_of_value? {c : Char} {value : Nat} (known : value? c = some value) :
    value < 64 ∧ digit value = c := by
  have code : c.toNat = c.val.toNat := rfl
  have starts : 'A'.val.toNat = 65 ∧ 'a'.val.toNat = 97 ∧ '0'.val.toNat = 48 := ⟨rfl, rfl, rfl⟩
  have ends : 'Z'.val.toNat = 90 ∧ 'z'.val.toNat = 122 ∧ '9'.val.toNat = 57 := ⟨rfl, rfl, rfl⟩
  have codes : 'A'.toNat = 65 ∧ 'a'.toNat = 97 ∧ '0'.toNat = 48 := ⟨rfl, rfl, rfl⟩
  simp only [value?, Char.le_def, UInt32.le_iff_toNat_le] at known
  split_ifs at known with upper lower number plus slash
  · obtain rfl := Option.some.inj known
    refine ⟨by omega, ?_⟩
    rw [digit, if_pos (by omega), show 'A'.toNat + (c.toNat - 'A'.toNat) = c.toNat by omega]
    exact Char.ofNat_toNat c
  · obtain rfl := Option.some.inj known
    refine ⟨by omega, ?_⟩
    rw [digit, if_neg (by omega), if_pos (by omega),
      show 'a'.toNat + (c.toNat - 'a'.toNat + 26 - 26) = c.toNat by omega]
    exact Char.ofNat_toNat c
  · obtain rfl := Option.some.inj known
    refine ⟨by omega, ?_⟩
    rw [digit, if_neg (by omega), if_neg (by omega), if_pos (by omega),
      show '0'.toNat + (c.toNat - '0'.toNat + 52 - 52) = c.toNat by omega]
    exact Char.ofNat_toNat c
  · obtain rfl := Option.some.inj known
    exact ⟨by decide, plus.symm⟩
  · obtain rfl := Option.some.inj known
    exact ⟨by decide, slash.symm⟩

theorem digit_ne_padding {value : Nat} (small : value < 64) : digit value ≠ '=' := by
  intro padding
  have known := value?_digit small
  rw [padding] at known
  cases known

/-! ## Groups -/

/-- Four digits are three bytes, unless they end the text with padding. -/
theorem decode?_cons {w x y z : Char} {rest : List Char} (inner : z = '=' → rest = [] → False) :
    decode? (w :: x :: y :: z :: rest) =
      (value? w).bind fun w => (value? x).bind fun x => (value? y).bind fun y =>
        (value? z).bind fun z => (decode? rest).map fun bytes =>
          (w * 4 + x / 16).toUInt8 :: (x % 16 * 16 + y / 4).toUInt8 ::
            (y % 4 * 64 + z).toUInt8 :: bytes := by
  rw [decode?]
  · simp only [Option.bind_eq_bind, Option.map_eq_bind]
    rfl
  · exact fun _ => inner
  · exact inner

theorem toUInt8_of_eq {value : Nat} {byte : UInt8} (same : value = byte.toNat) :
    value.toUInt8 = byte := by
  rw [same]
  exact UInt8.ofNat_toNat

theorem toNat_toUInt8 {value : Nat} (small : value < 256) : value.toUInt8.toNat = value :=
  Nat.mod_eq_of_lt small

/-- Bytes are decoded from their encoding. -/
theorem decode?_encode (bytes : List UInt8) : decode? (encode bytes) = some bytes := by
  induction bytes using encode.induct with
  | case1 => rfl
  | case2 a =>
    have byte := a.toNat_lt
    have same : a.toNat / 4 * 4 + a.toNat % 4 * 16 / 16 = a.toNat := by omega
    have unused : a.toNat % 4 * 16 % 16 = 0 := by omega
    simp only [encode, decode?, Option.bind_eq_bind, Option.bind_some,
      value?_digit (show a.toNat / 4 < 64 by omega),
      value?_digit (show a.toNat % 4 * 16 < 64 by omega), unused, if_true, toUInt8_of_eq same]
  | case3 a b =>
    have byte := a.toNat_lt
    have byte' := b.toNat_lt
    have same : a.toNat / 4 * 4 + (a.toNat % 4 * 16 + b.toNat / 16) / 16 = a.toNat := by omega
    have same' : (a.toNat % 4 * 16 + b.toNat / 16) % 16 * 16 + b.toNat % 16 * 4 / 4 =
        b.toNat := by omega
    have unused : b.toNat % 16 * 4 % 4 = 0 := by omega
    have plain : digit (b.toNat % 16 * 4) ≠ '=' := digit_ne_padding (by omega)
    rw [encode, decode?]
    · simp only [Option.bind_eq_bind, Option.bind_some,
        value?_digit (show a.toNat / 4 < 64 by omega),
        value?_digit (show a.toNat % 4 * 16 + b.toNat / 16 < 64 by omega),
        value?_digit (show b.toNat % 16 * 4 < 64 by omega), unused, if_true,
        toUInt8_of_eq same, toUInt8_of_eq same']
    · exact plain
  | case4 a b c rest ih =>
    have byte := a.toNat_lt
    have byte' := b.toNat_lt
    have byte'' := c.toNat_lt
    have same : a.toNat / 4 * 4 + (a.toNat % 4 * 16 + b.toNat / 16) / 16 = a.toNat := by omega
    have same' : (a.toNat % 4 * 16 + b.toNat / 16) % 16 * 16 +
        (b.toNat % 16 * 4 + c.toNat / 64) / 4 = b.toNat := by omega
    have same'' : (b.toNat % 16 * 4 + c.toNat / 64) % 4 * 64 + c.toNat % 64 = c.toNat := by omega
    have plain : digit (c.toNat % 64) ≠ '=' := digit_ne_padding (by omega)
    rw [encode, decode?_cons fun padding => absurd padding plain]
    simp only [ih, Option.bind_some, Option.map_some,
      value?_digit (show a.toNat / 4 < 64 by omega),
      value?_digit (show a.toNat % 4 * 16 + b.toNat / 16 < 64 by omega),
      value?_digit (show b.toNat % 16 * 4 + c.toNat / 64 < 64 by omega),
      value?_digit (show c.toNat % 64 < 64 by omega),
      toUInt8_of_eq same, toUInt8_of_eq same', toUInt8_of_eq same'']

/-- What is decoded to some bytes is their encoding. -/
theorem encode_of_decode? {text : List Char} {bytes : List UInt8}
    (decoded : decode? text = some bytes) : encode bytes = text := by
  induction text using decode?.induct generalizing bytes with
  | case1 =>
    cases decoded
    rfl
  | case2 w x =>
    simp only [decode?, Option.bind_eq_bind, Option.bind_eq_some_iff] at decoded
    obtain ⟨first, isFirst, second, isSecond, decoded⟩ := decoded
    obtain ⟨small, rfl⟩ := digit_of_value? isFirst
    obtain ⟨isSecondSmall, rfl⟩ := digit_of_value? isSecond
    split at decoded
    next unused =>
      obtain rfl := Option.some.inj decoded
      rw [encode, toNat_toUInt8 (by omega), show (first * 4 + second / 16) / 4 = first by omega,
        show (first * 4 + second / 16) % 4 * 16 = second by omega]
    next => cases decoded
  | case3 w x y plain =>
    rw [decode?] at decoded
    · simp only [Option.bind_eq_bind, Option.bind_eq_some_iff] at decoded
      obtain ⟨first, isFirst, second, isSecond, third, isThird, decoded⟩ := decoded
      obtain ⟨small, rfl⟩ := digit_of_value? isFirst
      obtain ⟨isSecondSmall, rfl⟩ := digit_of_value? isSecond
      obtain ⟨isThirdSmall, rfl⟩ := digit_of_value? isThird
      split at decoded
      next unused =>
        obtain rfl := Option.some.inj decoded
        rw [encode, toNat_toUInt8 (show first * 4 + second / 16 < 256 by omega),
          toNat_toUInt8 (show second % 16 * 16 + third / 4 < 256 by omega),
          show (first * 4 + second / 16) / 4 = first by omega,
          show (first * 4 + second / 16) % 4 * 16 + (second % 16 * 16 + third / 4) / 16 = second
            by omega,
          show (second % 16 * 16 + third / 4) % 16 * 4 = third by omega]
      next => cases decoded
    · exact plain
  | case4 w x y z rest plain plain' ih =>
    simp only [decode?_cons plain', Option.bind_eq_some_iff, Option.map_eq_some_iff] at decoded
    obtain ⟨first, isFirst, second, isSecond, third, isThird, fourth, isFourth, others, isRest,
      rfl⟩ := decoded
    obtain ⟨small, rfl⟩ := digit_of_value? isFirst
    obtain ⟨isSecondSmall, rfl⟩ := digit_of_value? isSecond
    obtain ⟨isThirdSmall, rfl⟩ := digit_of_value? isThird
    obtain ⟨isFourthSmall, rfl⟩ := digit_of_value? isFourth
    rw [encode, ih isRest, toNat_toUInt8 (show first * 4 + second / 16 < 256 by omega),
      toNat_toUInt8 (show second % 16 * 16 + third / 4 < 256 by omega),
      toNat_toUInt8 (show third % 4 * 64 + fourth < 256 by omega),
      show (first * 4 + second / 16) / 4 = first by omega,
      show (first * 4 + second / 16) % 4 * 16 + (second % 16 * 16 + third / 4) / 16 = second
        by omega,
      show (second % 16 * 16 + third / 4) % 16 * 4 + (third % 4 * 64 + fourth) / 64 = third
        by omega,
      show (third % 4 * 64 + fourth) % 64 = fourth by omega]
  | case5 text noText noByte noPair noGroup =>
    rw [decode?] at decoded
    · cases decoded
    · exact noText
    · exact noByte
    · exact noPair
    · exact noGroup

end Base64

end Workflow.Encoding

namespace Workflow.Intrinsic

open Encoding

/-! ## Texts -/

/-- A text is decoded from what it is encoded to, and from nothing else. -/
theorem decodeText_eq_ok_iff {text encoded : String} :
    decodeText encoded = .ok text ↔ encodeText text = encoded := by
  constructor
  · intro decoded
    rw [decodeText] at decoded
    split at decoded
    next => cases decoded
    next bytes isBytes =>
      split at decoded
      next _ isText =>
        obtain rfl := Except.ok.inj decoded
        rw [encodeText, ofUtf8?_eq_some_iff.mp isText, Base64.encode_of_decode? isBytes]
        exact String.ofList_toList
      next => cases decoded
  · rintro rfl
    have isText : ofUtf8? (utf8 text) = some text := ofUtf8?_eq_some_iff.mpr rfl
    rw [decodeText, encodeText, String.toList_ofList, Base64.decode?_encode]
    simp only [isText]

/-- Encoding always succeeds. -/
theorem apply_base64Encode (config : Config) (text : String) (source : Random.Source) :
    (apply config "Base64Encode" [.string text]).run source =
      (.ok (.string (encodeText text)), source) := by
  have plain : applyDrawing config "Base64Encode" [.string text] =
      Evaluation.ofExcept (.ok (.string (encodeText text))) := rfl
  exact run_apply_of_plain rfl rfl plain source

/-- Decoding succeeds on encodings only. -/
theorem apply_base64Decode_iff {config : Config} {encoded : String} {value : Json}
    {source later : Random.Source} :
    (apply config "Base64Decode" [.string encoded]).run source = (.ok value, later) ↔
      ∃ text, value = .string text ∧ later = source ∧ encodeText text = encoded := by
  have runs : (apply config "Base64Decode" [.string encoded]).run source =
      (((decodeText encoded).map Json.string).mapError (.refused "Base64Decode"), source) :=
    run_apply_of_plain rfl rfl rfl source
  rw [runs]
  constructor
  · intro same
    obtain ⟨answer, rfl⟩ := Prod.mk.inj same
    cases decoded : decodeText encoded with
    | error complaint =>
      rw [decoded] at answer
      cases answer
    | ok text =>
      rw [decoded] at answer
      cases answer
      exact ⟨text, rfl, rfl, decodeText_eq_ok_iff.mp decoded⟩
  · rintro ⟨text, rfl, rfl, isEncoding⟩
    rw [decodeText_eq_ok_iff.mpr isEncoding]
    rfl

/-- Whatever text an argument comes to, decoding its encoding gives it back. Every text that can be
decoded comes to one value only, a text, whose encoding it is. -/
theorem base64_canonical (scope : Scope) :
    (∀ (argument : Argument) (text : String) (source later : Random.Source),
      (argument.evaluate scope).run source = (.ok (.string text), later) →
        ((Call.mk "Base64Decode" [.call (.mk "Base64Encode" [argument])]).evaluate scope).run
          source = (.ok (.string text), later)) ∧
    (∀ (encoded : String) (value : Json) (source later : Random.Source),
      (apply scope.config "Base64Decode" [.string encoded]).run source = (.ok value, later) ↔
        ∃ text, value = .string text ∧ later = source ∧
          (apply scope.config "Base64Encode" [.string text]).run source =
            (.ok (.string encoded), source)) := by
  constructor
  · intro argument text source later given
    have encoded := evaluate_one given (apply_base64Encode scope.config text later)
    have decodes : (apply scope.config "Base64Decode" [.string (encodeText text)]).run later =
        (.ok (.string text), later) := apply_base64Decode_iff.mpr ⟨text, rfl, rfl, rfl⟩
    exact evaluate_one (by rwa [Argument.evaluate]) decodes
  · intro encoded value source later
    have encodes (text : String) : (apply scope.config "Base64Encode" [.string text]).run source =
        (.ok (.string encoded), source) ↔ encodeText text = encoded := by
      rw [apply_base64Encode]
      constructor
      · rintro ⟨⟩
        rfl
      · rintro rfl
        rfl
    simp only [apply_base64Decode_iff, encodes]

/-- A text with characters of two bytes, and with one byte in its last group. -/
theorem base64_canonical_padded :
    ((Argument.literal (.string "Grüße")).evaluate default).run default =
        (.ok (.string "Grüße"), default) ∧
      ((Call.mk "Base64Decode"
          [.call (.mk "Base64Encode" [.literal (.string "Grüße")])]).evaluate default).run default =
        (.ok (.string "Grüße"), default) :=
  have given : ((Argument.literal (.string "Grüße")).evaluate default).run default =
      (.ok (.string "Grüße"), default) := rfl
  ⟨given, (base64_canonical default).1 _ _ default default given⟩

example : encodeText "Grüße" = "R3LDvMOfZQ==" := by
  cbv

end Workflow.Intrinsic
