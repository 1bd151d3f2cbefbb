import RuleProbe.Proofs.Bytes
import RuleProbe.Proofs.Http
import RuleProbe.Proofs.Parts

/-!
# Addresses that hold bytes

An address may hold the bytes of its page itself, in base sixty-four or behind percent signs.  The
page is read from the address alone: it has these bytes, however they are spelled, and its text is
theirs in UTF-8, with replacement characters where they are not.
-/

namespace RuleProbe

namespace PageCharset

theorem normalize_standard : normalize standard = some standard :=
  normalize_eq (by decide) (by decide +kernel) (by simp [widened, standard])

theorem ofLabel_standard : Charset.ofLabel standard = .ok .utf8 := by
  have named : Charset.canonicalName? (Text.lower (Charset.reduceLabel false false standard)) =
      some ['u', 't', 'f', '_', '8'] := by
    unfold Charset.canonicalName? Charset.labelGroups Charset.labelRows
    -- The table of labels is unfolded as a list of characters, not as a string.
    rw [String.toList_ofList]
    decide +kernel
  have utf8 : Charset.ofName ['u', 't', 'f', '_', '8'] = .utf8 := by simp [Charset.ofName]
  rw [Charset.ofLabel, if_neg (by decide), named]
  exact congrArg Except.ok utf8

/-- Under the label of UTF-8, bytes are read with replacements where they are not a text. -/
theorem decodeBody_standard (raw : Bytes) :
    decodeBody raw (some standard) = .ok (Utf8.decodeLossy raw) := by
  have noZero : standard.elem '\x00' = false := by decide
  rw [decodeBody, normalizeOr_eq normalize_standard (by decide), ofLabel_standard, noZero]
  cases raw with
  | nil => rfl
  | cons b rest =>
      have decoded : Charset.decode .utf8 (b :: rest) =
          Charset.readable (Utf8.decode? (b :: rest)) := rfl
      rw [List.isEmpty_cons, Bool.false_and, if_neg Bool.false_ne_true]
      simp only [Except.bind]
      rw [decoded]
      cases read : Utf8.decode? (b :: rest) with
      | none => rfl
      | some text =>
          rw [Utf8.decodeLossy_of_decode? read]
          rfl

end PageCharset

namespace Http

/-- The parameter that names UTF-8. -/
def charsetParam : Text := "charset=utf-8".toList

/-- The parameter of bytes in base sixty-four. -/
def base64Param : Text := "base64".toList

/-- The page of an address that holds bytes, of a type that may be left out. -/
def heldPage (url type : Text) (raw : Bytes) : Page where
  success := true
  url := url
  status := some 200
  headers := [("Content-Type".toList, if type.isEmpty then "text/plain".toList else type)]
  body := Utf8.decodeLossy raw
  raw := raw
  charset := some PageCharset.standard
  error := none
  finalUrl := some url

/-- An address is read part by part. -/
theorem decodeData_append_cons
    {info payload : Text}
    (noComma : ',' ∉ info)
    {params : List Text}
    (cut : (Text.splitWhere (· == ';') [] info).map Text.trim = params)
    {raw : Bytes}
    (held : dataBytes? params payload = some raw)
    (labelled : paramCharset? params = some PageCharset.standard) :
    decodeData (dataStart ++ (info ++ ',' :: payload)) =
      heldPage (dataStart ++ (info ++ ',' :: payload)) (params.headD []) raw := by
  have given : (some PageCharset.standard).filter (fun label => !label.isEmpty) =
      some PageCharset.standard := by decide
  rw [decodeData, List.drop_left, Text.cut?_append_cons noComma, Option.getD_some]
  simp only [cut, held, labelled, given, Option.getD_some, PageCharset.decodeBody_standard]
  rfl

variable {type payload : Text} {bytes : Bytes}

/-- The charset is the one of the parameter for it, whatever the type is. -/
theorem paramCharset?_eq (type : Text) {others : List Text}
    (noCharset : ∀ param ∈ others, (Text.lower param).startsWith "charset=" = false) :
    paramCharset? (type :: charsetParam :: others) = some PageCharset.standard := by
  have begins : (Text.lower charsetParam).startsWith "charset=" = true := by decide +kernel
  have label : PageCharset.normalize (charsetParam.drop 8) = some PageCharset.standard :=
    PageCharset.normalize_standard
  unfold paramCharset?
  rw [List.foldl_cons, List.foldl_cons, if_pos begins, label]
  induction others with
  | nil => rfl
  | cons param rest hypothesis =>
      obtain ⟨first, later⟩ := List.forall_mem_cons.mp noCharset
      rw [List.foldl_cons, if_neg (by rw [first]; exact Bool.false_ne_true), hypothesis later]

/-- The parameters in front of bytes in base sixty-four. -/
theorem params_base64 (noSemicolon : ';' ∉ type) :
    (Text.splitWhere (· == ';') [] (type ++ ';' :: (charsetParam ++ ';' :: base64Param))).map
      Text.trim = [type.trim, charsetParam, base64Param] := by
  have others : (Text.splitWhere (· == ';') [] (charsetParam ++ ';' :: base64Param)).map
      Text.trim = [charsetParam, base64Param] := by decide
  rw [Text.splitWhere_append_cons noSemicolon, List.map_cons, others]
  rfl

/-- The parameters in front of bytes behind percent signs. -/
theorem params_percent (noSemicolon : ';' ∉ type) :
    (Text.splitWhere (· == ';') [] (type ++ ';' :: charsetParam)).map Text.trim =
      [type.trim, charsetParam] := by
  have others : (Text.splitWhere (· == ';') [] charsetParam).map Text.trim = [charsetParam] := by
    decide
  rw [Text.splitWhere_append_cons noSemicolon, List.map_cons, others]
  rfl

/-- What stands between the type and bytes in base sixty-four. -/
def base64Mark : Text := ";charset=utf-8;base64,".toList

/-- What stands between the type and bytes behind percent signs. -/
def percentMark : Text := ";charset=utf-8,".toList

/-- The address of bytes in base sixty-four. -/
def base64Address (type payload : Text) : Text := dataStart ++ type ++ base64Mark ++ payload

/-- The address of bytes behind percent signs. -/
def percentAddress (type payload : Text) : Text := dataStart ++ type ++ percentMark ++ payload

theorem base64Address_eq (type payload : Text) :
    base64Address type payload =
      dataStart ++ (type ++ ';' :: (charsetParam ++ ';' :: base64Param) ++ ',' :: payload) := by
  have mark : base64Mark = ';' :: (charsetParam ++ ';' :: base64Param) ++ [','] := by decide
  simp only [base64Address, mark, List.append_assoc, List.cons_append, List.nil_append]

theorem percentAddress_eq (type payload : Text) :
    percentAddress type payload = dataStart ++ (type ++ ';' :: charsetParam ++ ',' :: payload) := by
  have mark : percentMark = ';' :: charsetParam ++ [','] := by decide
  simp only [percentAddress, mark, List.append_assoc, List.cons_append, List.nil_append]

theorem decodeData_base64
    (noComma : ',' ∉ type)
    (noSemicolon : ';' ∉ type)
    {dropped : Nat}
    (cut : Base64.written bytes = payload ++ List.replicate dropped '=') :
    decodeData (base64Address type payload) =
      heldPage (base64Address type payload) type.trim bytes := by
  have noCommas : ',' ∉ type ++ ';' :: (charsetParam ++ ';' :: base64Param) := by
    have others : ',' ∉ ';' :: (charsetParam ++ ';' :: base64Param) := by decide
    simp only [List.mem_append, noComma, others, or_self, not_false_eq_true]
  have held : dataBytes? [type.trim, charsetParam, base64Param] payload = some bytes := by
    have listed : [type.trim, charsetParam, base64Param].elem base64Param = true := by simp
    exact (if_pos listed).trans (Base64.decode?_append_padding cut)
  rw [base64Address_eq]
  exact decodeData_append_cons noCommas (params_base64 noSemicolon) held
    (paramCharset?_eq _ (by decide +kernel))

theorem decodeData_percent
    (noComma : ',' ∉ type)
    (noSemicolon : ';' ∉ type)
    (notBase64 : type.trim ≠ base64Param)
    (spelled : Percent.Spelled bytes payload) :
    decodeData (percentAddress type payload) =
      heldPage (percentAddress type payload) type.trim bytes := by
  have noCommas : ',' ∉ type ++ ';' :: charsetParam := by
    have others : ',' ∉ ';' :: charsetParam := by decide
    simp only [List.mem_append, noComma, others, or_self, not_false_eq_true]
  have held : dataBytes? [type.trim, charsetParam] payload = some bytes := by
    have unlisted : ¬[type.trim, charsetParam].elem base64Param = true := by
      have other : base64Param ≠ charsetParam := by decide
      simp [notBase64.symm, other]
    exact (if_neg unlisted).trans (congrArg some spelled.decode_encode)
  rw [percentAddress_eq]
  exact decodeData_append_cons noCommas (params_percent noSemicolon) held
    (paramCharset?_eq _ nofun)

/-- A page is there, with these bytes and their text. -/
structure Holds (page : Page) (bytes : Bytes) : Prop where
  /-- The page is there. -/
  success : page.success = true
  /-- It has these bytes. -/
  raw : page.raw = bytes
  /-- Its text is theirs, with replacements where they are no text. -/
  body : ∀ text, Utf8.Replaces bytes text ↔ page.body = text

theorem holds_heldPage (url type : Text) (bytes : Bytes) : Holds (heldPage url type bytes) bytes :=
  ⟨rfl, rfl, fun _ => Utf8.replaces_iff⟩

theorem fetch_of_startsWith {url : Text} (isData : url.startsWith dataStart = true)
    (network : Network) (options : Options) :
    fetch network url options = .ok (decodeData url, none) := by
  rw [fetch, if_pos isData]

/-- The page of an address that holds bytes has these bytes and their text, and no request is made
for it. -/
theorem fetch_data_holds
    (network : Network)
    (options : Options)
    (noComma : ',' ∉ type)
    (noSemicolon : ';' ∉ type)
    (notBase64 : type.trim ≠ "base64".toList)
    (bytes : Bytes) :
    (∀ payload dropped, Base64.written bytes = payload ++ List.replicate dropped '=' →
      ∃ page, fetch network (base64Address type payload) options = .ok (page, none) ∧
        Holds page bytes) ∧
    (∀ payload, Percent.Spelled bytes payload →
      ∃ page, fetch network (percentAddress type payload) options = .ok (page, none) ∧
        Holds page bytes) := by
  have begins (rest : Text) : (dataStart ++ rest).startsWith dataStart = true := by
    simp [Text.startsWith]
  constructor
  · intro payload dropped cut
    have isData : (base64Address type payload).startsWith dataStart = true := by
      rw [base64Address_eq]
      exact begins _
    refine ⟨_, ?_, holds_heldPage (base64Address type payload) type.trim bytes⟩
    rw [fetch_of_startsWith isData, decodeData_base64 noComma noSemicolon cut]
  · intro payload spelled
    have isData : (percentAddress type payload).startsWith dataStart = true := by
      rw [percentAddress_eq]
      exact begins _
    refine ⟨_, ?_, holds_heldPage (percentAddress type payload) type.trim bytes⟩
    rw [fetch_of_startsWith isData, decodeData_percent noComma noSemicolon notBase64 spelled]

/-- A network that answers nothing. -/
def silentNetwork : Network := fun _ => .failure [] []

/-- A type with a space in front. -/
def spacedType : Text := [' ', 'a', '/', 'b']

/-- A byte that begins no character, a comma, and a character without its last byte. -/
def brokenBytes : Bytes := [0xff, 0x2c, 0xe4, 0xb8]

/-- The bytes are read from digits without padding, and from escapes in either case. -/
theorem fetch_data_holds_brokenBytes :
    spacedType.trim ≠ "base64".toList ∧
      Base64.written brokenBytes = "/yzkuA".toList ++ List.replicate 2 '=' ∧
        Percent.Spelled brokenBytes "%fF%2C%e4%B8".toList ∧
          ∀ address ∈ [base64Address spacedType "/yzkuA".toList,
              percentAddress spacedType "%fF%2C%e4%B8".toList],
            ∃ page, fetch silentNetwork address {} = .ok (page, none) ∧ page.success = true ∧
              page.raw = brokenBytes ∧ page.body = ['\uFFFD', ',', '\uFFFD'] := by
  have notBase64 : spacedType.trim ≠ "base64".toList := by decide
  have cut : Base64.written brokenBytes = "/yzkuA".toList ++ List.replicate 2 '=' := by decide
  have spelled : Percent.Spelled brokenBytes "%fF%2C%e4%B8".toList :=
    .escape (.inl rfl) (.inr rfl) (.escape (.inl rfl) (.inr rfl) (.escape (.inl rfl) (.inl rfl)
      (.escape (.inr rfl) (.inl rfl) .nil)))
  have text : Utf8.decodeLossy brokenBytes = ['\uFFFD', ',', '\uFFFD'] := by decide
  have unmarked : ',' ∉ spacedType ∧ ';' ∉ spacedType := by decide
  obtain ⟨digits, escapes⟩ :=
    fetch_data_holds silentNetwork {} unmarked.1 unmarked.2 notBase64 brokenBytes
  refine ⟨notBase64, cut, spelled, List.forall_mem_cons.mpr ⟨?_, List.forall_mem_cons.mpr
    ⟨?_, nofun⟩⟩⟩
  · obtain ⟨page, fetched, holds⟩ := digits _ 2 cut
    exact ⟨page, fetched, holds.success, holds.raw, (holds.body _).mp (Utf8.replaces_iff.mpr text)⟩
  · obtain ⟨page, fetched, holds⟩ := escapes _ spelled
    exact ⟨page, fetched, holds.success, holds.raw, (holds.body _).mp (Utf8.replaces_iff.mpr text)⟩

end Http

end RuleProbe
