import Mathlib
import Courier.Proofs.Text.Numeral
import Courier.Settings.Brokers

/-!
# Texts in settings

Names, passwords and the like are fields that hold texts. Their variables are read as values as all
others are, and the field gets the text of the value. So the text of a variable is left as it is
only if it is the standard text of what it is read as: a password of digits loses its leading zeros.
`textField_of_variable` says what becomes of every text, and which ones are left as they are.
-/

namespace Courier.Settings

/-! ## §1 The text of a binary number -/

/-- The plain text of digits times a power of ten: zeros are added where no digit is left, a point
stands where the fraction begins, and there is no exponent. -/
inductive IsPlain (digits : List Char) : Int → List Char → Prop where
  | whole (zeros : Nat) : IsPlain digits zeros (digits ++ List.replicate zeros '0')
  | pointed (whole fraction : List Char) : digits = whole ++ fraction → whole ≠ [] →
      fraction ≠ [] → IsPlain digits (-fraction.length) (whole ++ '.' :: fraction)
  | small (zeros : Nat) : digits ≠ [] → IsPlain digits (-(zeros + digits.length : Nat))
      ('0' :: '.' :: (List.replicate zeros '0' ++ digits))

/-- Digits are laid out as the plain text, and there is no other one. -/
theorem plainText_eq_iff {digits cs : List Char} {exponent : Int} (h : digits ≠ []) :
    Binary64.plainText floatStyle digits exponent = cs ↔ IsPlain digits exponent cs := by
  constructor
  · rintro rfl
    unfold Binary64.plainText
    dsimp only
    split
    -- no digit stands behind the point
    · rename_i hwhole
      obtain ⟨zeros, rfl⟩ := Int.eq_ofNat_of_zero_le hwhole
      have hplain : IsPlain digits zeros (digits ++ List.replicate zeros '0') := .whole zeros
      simpa [floatStyle] using hplain
    · rename_i hneg
      split
      -- the point stands among the digits
      · rename_i hpoint
        obtain ⟨point, hp⟩ := Int.eq_ofNat_of_zero_le (Int.le_of_lt hpoint)
        have hexp : exponent = -(digits.drop point).length := by
          rw [List.length_drop]
          omega
        rw [hp, Int.toNat_natCast, hexp, List.append_assoc]
        refine .pointed _ _ (List.take_append_drop _ _).symm ?_ ?_
        · rw [Ne, List.take_eq_nil_iff]
          rintro (h0 | h0)
          · omega
          · exact h h0
        · rw [Ne, List.drop_eq_nil_iff]
          omega
      -- the point stands before all of them
      · rename_i hpoint
        have hbefore : 0 ≤ -((digits.length : Int) + exponent) := by omega
        obtain ⟨zeros, hz⟩ := Int.eq_ofNat_of_zero_le hbefore
        have hexp : exponent = -(zeros + digits.length : Nat) := by omega
        rw [hz, Int.toNat_natCast, hexp]
        exact .small zeros h
  · intro hplain
    unfold Binary64.plainText
    dsimp only
    cases hplain with
    | whole zeros => simp [floatStyle]
    | pointed whole fraction hd hw hf =>
      subst hd
      have hwhole := List.length_pos_iff.mpr hw
      have hfraction := List.length_pos_iff.mpr hf
      have hpoint : ((whole ++ fraction).length : Int) + -(fraction.length : Int)
          = whole.length := by
        rw [List.length_append]
        omega
      rw [if_neg (by omega), hpoint, if_pos (by omega), Int.toNat_natCast, List.take_left,
        List.drop_left, List.append_assoc]
      rfl
    | small zeros hd =>
      have hlen := List.length_pos_iff.mpr hd
      have hpoint : (digits.length : Int) + -((zeros + digits.length : Nat) : Int) = -zeros := by
        omega
      rw [if_neg (by omega), hpoint, if_neg (by omega), Int.neg_neg, Int.toNat_natCast]
      rfl
/-- The decimal of fewest digits that is read as a finite number. -/
def leastDecimal (p : Binary64.Parts) : Binary64.Decimal :=
  if p.mantissa = 0 then ⟨0, 0⟩ else Binary64.shortest p.mantissa p.exponent

/-- The standard text of a binary number: a minus sign, if it is negative, and the plain text of the
decimal of fewest digits that is read as it. An infinity and what is no number have their names. -/
inductive IsFloatText (x : Float) : String → Prop where
  | finite (p : Binary64.Parts) (cs : List Char) : Binary64.parts x = some p →
      IsPlain (Numeral.decimalDigits (leastDecimal p).digits) (leastDecimal p).exponent cs →
      IsFloatText x (String.ofList (if p.negative then '-' :: cs else cs))
  | infinity : Binary64.parts x = none → x.toBits.toNat % (1 <<< 52) = 0 →
      x.toBits.toNat < 1 <<< 63 → IsFloatText x "inf"
  | minusInfinity : Binary64.parts x = none → x.toBits.toNat % (1 <<< 52) = 0 →
      1 <<< 63 ≤ x.toBits.toNat → IsFloatText x "-inf"
  | nan : Binary64.parts x = none → x.toBits.toNat % (1 <<< 52) ≠ 0 → IsFloatText x "NaN"

theorem floatText_of_parts {x : Float} {p : Binary64.Parts} (h : Binary64.parts x = some p) :
    floatText x = String.ofList (if p.negative then '-' :: Binary64.plainText floatStyle
        (Numeral.decimalDigits (leastDecimal p).digits) (leastDecimal p).exponent
      else Binary64.plainText floatStyle
        (Numeral.decimalDigits (leastDecimal p).digits) (leastDecimal p).exponent) := by
  obtain ⟨negative, mantissa, exponent⟩ := p
  rw [floatText, Binary64.text, h]
  cases negative with
  | false => rfl
  | true => rfl

/-- A binary number is written with its standard text, and with no other one. -/
theorem floatText_eq_iff {x : Float} {s : String} : floatText x = s ↔ IsFloatText x s := by
  constructor
  · rintro rfl
    cases hparts : Binary64.parts x with
    | some p =>
      rw [floatText_of_parts hparts]
      exact .finite p _ hparts ((plainText_eq_iff (Numeral.decimalDigits_ne_nil _)).mp rfl)
    | none =>
      rw [floatText, Binary64.text, hparts]
      dsimp only
      split
      · rename_i hnan
        exact .nan hparts hnan
      · rename_i hzero
        split
        · rename_i hminus
          exact .minusInfinity hparts (not_not.mp hzero) hminus
        · rename_i hplus
          exact .infinity hparts (not_not.mp hzero) (Nat.lt_of_not_le hplus)
  · intro h
    cases h with
    | finite p cs hparts hplain =>
      rw [floatText_of_parts hparts, (plainText_eq_iff (Numeral.decimalDigits_ne_nil _)).mpr hplain]
    | infinity hparts hzero hplus =>
      rw [floatText, Binary64.text, hparts]
      dsimp only
      rw [if_neg (not_not.mpr hzero), if_neg (Nat.not_le_of_lt hplus)]
      rfl
    | minusInfinity hparts hzero hminus =>
      rw [floatText, Binary64.text, hparts]
      dsimp only
      rw [if_neg (not_not.mpr hzero), if_pos hminus]
      rfl
    | nan hparts hnan =>
      rw [floatText, Binary64.text, hparts]
      dsimp only
      rw [if_pos hnan]
      rfl

/-! ## §2 The text of a value -/

/-- The text that a field gets from the text of its variable. -/
def fieldText (s : String) : String :=
  (Value.ofText false s).toText

/-- Whether the text of a variable is the standard text of the value that it is read as. -/
structure IsStandard (s : String) : Prop where
  /-- A truth value is in small letters. -/
  bool : ∀ b, readBool s = some b → s = "true" ∨ s = "false"
  /-- A whole number has no plus sign and no zero that could be left out. -/
  int : ∀ n, readBool s = none → Numeral.readSigned (1 <<< 63) s = some n →
    Numeral.IsStandard s.toList
  /-- Any other number has the fewest digits that are read as it, laid out without an exponent. -/
  float : ∀ x, readBool s = none → Numeral.readSigned (1 <<< 63) s = none →
    readFloat s = some x → IsFloatText x s

theorem toText_bool_eq_iff {s : String} {b : Bool} (h : readBool s = some b) :
    (Value.bool b).toText = s ↔ s = "true" ∨ s = "false" := by
  constructor
  · rintro rfl
    cases b
    · exact .inr rfl
    · exact .inl rfl
  · rintro (rfl | rfl)
    · have hread : readBool "true" = some true := by cbv
      obtain rfl := Option.some.inj (h.symm.trans hread)
      rfl
    · have hread : readBool "false" = some false := by cbv
      obtain rfl := Option.some.inj (h.symm.trans hread)
      rfl

/-- A text is left as it is if it is the standard text of its value. -/
theorem fieldText_eq_iff (s : String) : fieldText s = s ↔ IsStandard s := by
  unfold fieldText Value.ofText
  cases hbool : readBool s with
  | some b =>
    show (Value.bool b).toText = s ↔ IsStandard s
    rw [toText_bool_eq_iff hbool]
    constructor
    · intro h
      exact ⟨fun _ _ => h, fun _ hnone => (nomatch hbool.symm.trans hnone),
        fun _ hnone => (nomatch hbool.symm.trans hnone)⟩
    · exact fun h => h.bool b hbool
  | none =>
    cases hint : Numeral.readSigned (1 <<< 63) s with
    | some n =>
      show Numeral.ofInt n = s ↔ IsStandard s
      rw [Numeral.ofInt_eq_iff hint]
      constructor
      · intro h
        exact ⟨fun _ hsome => (nomatch hbool.symm.trans hsome), fun _ _ _ => h,
          fun _ _ hnone => (nomatch hint.symm.trans hnone)⟩
      · exact fun h => h.int n hbool hint
    | none =>
      have hnotBool : ∀ b, readBool s = some b → s = "true" ∨ s = "false" :=
        fun _ hsome => nomatch hbool.symm.trans hsome
      have hnotInt : ∀ n, readBool s = none → Numeral.readSigned (1 <<< 63) s = some n →
          Numeral.IsStandard s.toList := fun _ _ hsome => nomatch hint.symm.trans hsome
      cases hfloat : readFloat s with
      | some x =>
        show floatText x = s ↔ IsStandard s
        rw [floatText_eq_iff]
        constructor
        · intro h
          refine ⟨hnotBool, hnotInt, fun y _ _ hy => ?_⟩
          obtain rfl := Option.some.inj (hfloat.symm.trans hy)
          exact h
        · exact fun h => h.float x hbool hint hfloat
      | none =>
        -- a text that is nothing else stands for itself
        exact iff_of_true rfl
          ⟨hnotBool, hnotInt, fun _ _ _ hsome => nomatch hfloat.symm.trans hsome⟩

/-! ## §3 Variables of texts -/

/-- The variables of AMQP settings that are texts, and how each of them sets its field. -/
def Amqp.textVariables : List (String × (Amqp → String → Amqp)) :=
  [("AMQP_HOST", fun settings s => { settings with host := s }),
    ("AMQP_USER", fun settings s => { settings with user := s }),
    ("AMQP_PASSWORD", fun settings s => { settings with password := s }),
    ("AMQP_VHOST", fun settings s => { settings with vhost := s }),
    ("AMQP_CONNECTION_NAME", fun settings s => { settings with connectionName := s })]

/-- The variables of Kafka settings that are texts, and how each of them sets its field. -/
def Kafka.textVariables : List (String × (Kafka → String → Kafka)) :=
  [("KAFKA_GROUP_ID", fun settings s => { settings with groupId := s }),
    ("KAFKA_CLIENT_ID", fun settings s => { settings with clientId := s })]

section Single

variable {name field : String}

/-- One variable alone gives a value to one field. -/
theorem load_single {section_ : String} {lists : List String}
    (hname : fieldName? section_ name = some field) (hlist : field ∉ lists) (s : String) :
    load section_ lists [(name, s)] = Dict.ofList [(field, Value.ofText false s)] := by
  simp [load, settle, hname, hlist]

theorem get?_single {α : Type} (field other : String) (v : α) :
    (Dict.ofList [(field, v)]).get? other = if field = other then some v else none := by
  rw [Dict.ofList, Dict.insertAll, List.foldl_cons, List.foldl_nil, Dict.get?_insert,
    Dict.get?_empty]

theorem textField_single (field other standard s : String) :
    textField (Dict.ofList [(field, Value.ofText false s)]) other standard
      = if field = other then fieldText s else standard := by
  rw [textField, get?_single]
  by_cases h : field = other
  · rw [if_pos h, if_pos h]
    rfl
  · rw [if_neg h, if_neg h]

theorem unsignedField_single {other : String} (h : field ≠ other) (bits standard : Nat)
    (v : Value) : unsignedField (Dict.ofList [(field, v)]) other bits standard = .ok standard := by
  rw [unsignedField, get?_single, if_neg h]

theorem listField_single {other : String} (h : field ≠ other) (standard : List String) (v : Value) :
    listField (Dict.ofList [(field, v)]) other standard = .ok standard := by
  rw [listField, get?_single, if_neg h]

/-- A variable that is not that of the port sets one text of the AMQP settings at most. -/
theorem Amqp.ofVariables_single (hname : fieldName? "amqp" name = some field)
    (hport : field ≠ "port") (s : String) : ofVariables [(name, s)] = .ok {
      host := if field = "host" then fieldText s else standard.host
      port := standard.port
      user := if field = "user" then fieldText s else standard.user
      password := if field = "password" then fieldText s else standard.password
      vhost := if field = "vhost" then fieldText s else standard.vhost
      connectionName :=
        if field = "connection_name" then fieldText s else standard.connectionName } := by
  simp only [ofVariables, load_single hname List.not_mem_nil, unsignedField_single hport,
    textField_single]

/-- A variable that is none of those of numbers and lists sets one text of the Kafka settings at
most. -/
theorem Kafka.ofVariables_single (hname : fieldName? "kafka" name = some field)
    (hlist : field ≠ "brokers") (hsession : field ≠ "session_timeout_ms")
    (hmessage : field ≠ "message_timeout_ms") (s : String) : ofVariables [(name, s)] = .ok {
      brokers := standard.brokers
      groupId := if field = "group_id" then fieldText s else standard.groupId
      clientId := if field = "client_id" then fieldText s else standard.clientId
      sessionTimeoutMs := standard.sessionTimeoutMs
      messageTimeoutMs := standard.messageTimeoutMs } := by
  have hnot : field ∉ ["brokers"] := by simp [hlist]
  simp only [ofVariables, load_single hname hnot, listField_single hlist,
    unsignedField_single hsession, unsignedField_single hmessage, textField_single]
  rfl

end Single

/-- A variable of a text sets its field to the text of its value, and nothing else. -/
theorem Amqp.ofVariables_text (s : String) : ∀ v ∈ textVariables,
    ofVariables [(v.1, s)] = .ok (v.2 standard (fieldText s)) := by
  simp only [textVariables, List.forall_mem_cons]
  refine ⟨?_, ?_, ?_, ?_, ?_, nofun⟩
  · have hname : fieldName? "amqp" "AMQP_HOST" = some "host" := by cbv
    exact ofVariables_single hname (by decide) s
  · have hname : fieldName? "amqp" "AMQP_USER" = some "user" := by cbv
    exact ofVariables_single hname (by decide) s
  · have hname : fieldName? "amqp" "AMQP_PASSWORD" = some "password" := by cbv
    exact ofVariables_single hname (by decide) s
  · have hname : fieldName? "amqp" "AMQP_VHOST" = some "vhost" := by cbv
    exact ofVariables_single hname (by decide) s
  · have hname : fieldName? "amqp" "AMQP_CONNECTION_NAME" = some "connection_name" := by cbv
    exact ofVariables_single hname (by decide) s

/-- A variable of a text sets its field to the text of its value, and nothing else. -/
theorem Kafka.ofVariables_text (s : String) : ∀ v ∈ textVariables,
    ofVariables [(v.1, s)] = .ok (v.2 standard (fieldText s)) := by
  simp only [textVariables, List.forall_mem_cons]
  refine ⟨?_, ?_, nofun⟩
  · have hname : fieldName? "kafka" "KAFKA_GROUP_ID" = some "group_id" := by cbv
    exact ofVariables_single hname (by decide) (by decide) (by decide) s
  · have hname : fieldName? "kafka" "KAFKA_CLIENT_ID" = some "client_id" := by cbv
    exact ofVariables_single hname (by decide) (by decide) (by decide) s

/-- Different texts make different settings. -/
theorem Amqp.textVariables_injective : ∀ v ∈ textVariables, ∀ s s' : String,
    v.2 standard s = v.2 standard s' ↔ s = s' := by
  simp [textVariables]

theorem Kafka.textVariables_injective : ∀ v ∈ textVariables, ∀ s s' : String,
    v.2 standard s = v.2 standard s' ↔ s = s' := by
  simp [textVariables]

/-! ## §4 Texts that are left as they are -/

/-- Whatever the text of a variable is, if it is the only one that is set and sets a text: the
settings are made, the field gets the text of the value that this text is read as and all others
keep their defaults; and it gets the very text exactly if that is the standard one of its value. -/
theorem textField_of_variable (s : String) :
    (∀ v ∈ Amqp.textVariables,
      Amqp.ofVariables [(v.1, s)] = .ok (v.2 .standard (fieldText s)) ∧
      (Amqp.ofVariables [(v.1, s)] = .ok (v.2 .standard s) ↔ IsStandard s)) ∧
    ∀ v ∈ Kafka.textVariables,
      Kafka.ofVariables [(v.1, s)] = .ok (v.2 .standard (fieldText s)) ∧
      (Kafka.ofVariables [(v.1, s)] = .ok (v.2 .standard s) ↔ IsStandard s) := by
  constructor
  · intro v hv
    refine ⟨Amqp.ofVariables_text s v hv, ?_⟩
    rw [Amqp.ofVariables_text s v hv, Except.ok.injEq, Amqp.textVariables_injective v hv,
      fieldText_eq_iff]
  · intro v hv
    refine ⟨Kafka.ofVariables_text s v hv, ?_⟩
    rw [Kafka.ofVariables_text s v hv, Except.ok.injEq, Kafka.textVariables_injective v hv,
      fieldText_eq_iff]

/-- A password that begins with a letter is left as it is, and a group gets its number. -/
theorem textField_of_password :
    ("AMQP_PASSWORD", fun (settings : Amqp) s => { settings with password := s })
      ∈ Amqp.textVariables ∧ IsStandard "s3cret" ∧
    Amqp.ofVariables [("AMQP_PASSWORD", "s3cret")]
      = .ok { Amqp.standard with password := "s3cret" } ∧
    Kafka.ofVariables [("KAFKA_GROUP_ID", "+70")]
      = .ok { Kafka.standard with groupId := "70" } := by
  have hpassword : ("AMQP_PASSWORD", fun (settings : Amqp) s => { settings with password := s })
      ∈ Amqp.textVariables := .tail _ (.tail _ (.head _))
  have hstandard : IsStandard "s3cret" := (fieldText_eq_iff _).mp (by cbv)
  have hseventy : fieldText "+70" = "70" := by cbv
  refine ⟨hpassword, hstandard, ?_, ?_⟩
  · exact ((textField_of_variable "s3cret").1 _ hpassword).2.mpr hstandard
  · rw [← hseventy]
    exact ((textField_of_variable "+70").2 _ (.head _)).1

/-- Not every text is left as it is: a password loses its leading zeros. -/
theorem not_textField_verbatim :
    ¬∀ s, (∀ v ∈ Amqp.textVariables, Amqp.ofVariables [(v.1, s)] = .ok (v.2 .standard s)) ∧
      ∀ v ∈ Kafka.textVariables, Kafka.ofVariables [(v.1, s)] = .ok (v.2 .standard s) := by
  intro h
  have hpassword : ("AMQP_PASSWORD", fun (settings : Amqp) s => { settings with password := s })
      ∈ Amqp.textVariables := .tail _ (.tail _ (.head _))
  have hverbatim := (h "007").1 _ hpassword
  have hseven : fieldText "007" = "7" := by cbv
  rw [Amqp.ofVariables_text "007" _ hpassword, hseven, Except.ok.injEq,
    Amqp.textVariables_injective _ hpassword] at hverbatim
  exact absurd hverbatim (by decide)

end Courier.Settings
