import Mathlib
import Courier.Proofs.Settings.Scalars
import Courier.Proofs.Settings.Texts
import Courier.Proofs.Text.Lowercase
import Courier.Proofs.Text.Split

/-!
# Lists of brokers

The brokers of a Kafka cluster are a list in one variable, and the clients are given the list as one
text again. The two are the same text, whatever separators it holds and wherever. But a text that can
be read as a single value is no list: it is refused, and `brokers_of_variable` says of which texts
this is so.
-/

namespace Courier.Settings

/-! ## §1 Single values -/

/-- A text that is a truth value, in any case. -/
def IsTruth (s : String) : Prop :=
  s.toList.map Char.toLower = "true".toList ∨ s.toList.map Char.toLower = "false".toList

/-- A text that is a whole number of 64 bits. -/
def IsWhole (s : String) : Prop :=
  ∃ n : Int, Numeral.Signed s.toList n ∧ -9223372036854775808 ≤ n ∧ n ≤ 9223372036854775807

/-- A text that is a single value. -/
def IsScalar (s : String) : Prop :=
  IsTruth s ∨ IsWhole s ∨ IsNumber s.toList

theorem exists_readBool_iff {s : String} : (∃ b, readBool s = some b) ↔ IsTruth s := by
  have htrue : Text.lowercase s = "true" ↔ s.toList.map Char.toLower = "true".toList :=
    Text.lowercase_eq_iff (by simp [Text.IsOwn])
  have hfalse : Text.lowercase s = "false" ↔ s.toList.map Char.toLower = "false".toList :=
    Text.lowercase_eq_iff (by simp [Text.IsOwn])
  refine Iff.trans ?_ (or_congr htrue hfalse)
  unfold readBool
  by_cases ht : Text.lowercase s = "true"
  · simp [ht]
  · by_cases hf : Text.lowercase s = "false"
    · simp [hf]
    · simp [ht, hf]

theorem exists_readSigned_iff {s : String} :
    (∃ n, Numeral.readSigned (1 <<< 63) s = some n) ↔ IsWhole s := by
  apply exists_congr
  intro n
  rw [Numeral.readSigned_eq_some_iff (by decide)]
  apply and_congr_right
  intro _
  have hbound : ((1 <<< 63 : Nat) : Int) = 9223372036854775808 := rfl
  omega

/-- A text is read as the list of its parts exactly if it is no single value. -/
theorem ofText_eq_list_iff {s : String} {parts : List String} :
    Value.ofText true s = .list parts ↔ ¬IsScalar s ∧ Text.splitAt ',' s = parts := by
  rw [IsScalar, ← exists_readBool_iff, ← exists_readSigned_iff, ← exists_readFloat_iff]
  unfold Value.ofText
  cases readBool s <;> cases Numeral.readSigned (1 <<< 63) s <;> cases readFloat s <;> simp

/-! ## §2 A variable among others -/

/-- Whether a variable is the only one of its section that is set. Others may be set beside it, each
of them once. -/
structure IsOnly (section_ name s : String) (environment : List (String × String)) : Prop where
  nodup : (environment.map Prod.fst).Nodup
  mem : (name, s) ∈ environment
  others : ∀ v ∈ environment, v.1 ≠ name → fieldName? section_ v.1 = none

/-- Variables that are set once have their texts. -/
theorem settle_of_nodup {done environment : List (String × String)}
    (h : ((done ++ environment).map Prod.fst).Nodup) :
    settle done environment = done ++ environment := by
  induction environment generalizing done with
  | nil => exact (List.append_nil done).symm
  | cons v rest ih =>
    obtain ⟨name, s⟩ := v
    have hnew : (done.any fun p => p.1 = name) = false := by
      rw [List.any_eq_false]
      intro p hp heq
      rw [List.map_append, List.nodup_append] at h
      exact h.2.2 p.1 (List.mem_map_of_mem hp) name List.mem_cons_self (of_decide_eq_true heq)
    have hmove : done ++ (name, s) :: rest = (done ++ [(name, s)]) ++ rest := by simp
    rw [hmove] at h ⊢
    rw [settle, hnew, if_neg Bool.false_ne_true, ih h]

/-- The only variable of a section gives a value to its field. -/
theorem load_of_isOnly {section_ name field s : String} {environment : List (String × String)}
    (hname : fieldName? section_ name = some field) (h : IsOnly section_ name s environment)
    (lists : List String) :
    load section_ lists environment
      = Dict.ofList [(field, Value.ofText (lists.contains field) s)] := by
  obtain ⟨before, after, rfl⟩ := List.mem_iff_append.mp h.mem
  have hnodup := h.nodup
  rw [List.map_append, List.map_cons, List.nodup_append, List.nodup_cons] at hnodup
  obtain ⟨-, ⟨hafter, -⟩, hbefore⟩ := hnodup
  have hskip (vs : List (String × String)) (hvs : ∀ v ∈ vs, fieldName? section_ v.1 = none) :
      (vs.filterMap fun p => (fieldName? section_ p.1).map fun field =>
        (field, Value.ofText (lists.contains field) p.2)) = [] := by
    rw [List.filterMap_eq_nil_iff]
    intro v hv
    rw [hvs v hv, Option.map_none]
  have hfirst : ∀ v ∈ before, fieldName? section_ v.1 = none := fun v hv =>
    h.others v (List.mem_append_left _ hv)
      (hbefore v.1 (List.mem_map_of_mem hv) name List.mem_cons_self)
  have hlast : ∀ v ∈ after, fieldName? section_ v.1 = none := fun v hv =>
    h.others v (List.mem_append_right _ (List.mem_cons_of_mem _ hv))
      fun heq => hafter (List.mem_map.mpr ⟨v, hv, heq⟩)
  rw [load, settle_of_nodup (by simpa using h.nodup), List.nil_append, List.filterMap_append,
    List.filterMap_cons, hskip before hfirst, hskip after hlast, hname]
  rfl

namespace Kafka

variable {s : String} {parts : List String} {environment : List (String × String)}

/-- Other fields keep their texts. -/
theorem textField_of_ne {field other : String} (h : field ≠ other) (v : Value)
    (standard : String) : textField (Dict.ofList [(field, v)]) other standard = standard := by
  rw [textField, get?_single, if_neg h]

theorem load_brokers (h : IsOnly "kafka" "KAFKA_BROKERS" s environment) :
    load "kafka" ["brokers"] environment
      = Dict.ofList [("brokers", Value.ofText true s)] := by
  have hname : fieldName? "kafka" "KAFKA_BROKERS" = some "brokers" := by cbv
  exact load_of_isOnly hname h ["brokers"]

/-- A list is taken as it is. -/
theorem ofVariables_of_list (h : IsOnly "kafka" "KAFKA_BROKERS" s environment)
    (hvalue : Value.ofText true s = .list parts) :
    ofVariables environment = .ok { standard with brokers := parts } := by
  have hlist : listField (Dict.ofList [("brokers", .list parts)]) "brokers" standard.brokers
      = .ok parts := by
    rw [listField, get?_single, if_pos rfl]
  have hsession : "brokers" ≠ "session_timeout_ms" := by decide
  have hmessage : "brokers" ≠ "message_timeout_ms" := by decide
  have hgroup : "brokers" ≠ "group_id" := by decide
  have hclient : "brokers" ≠ "client_id" := by decide
  simp only [ofVariables, load_brokers h, hvalue, hlist, unsignedField_single hsession,
    unsignedField_single hmessage, textField_of_ne hgroup, textField_of_ne hclient]
  rfl

/-- Anything else is refused. -/
theorem ofVariables_of_not_list (h : IsOnly "kafka" "KAFKA_BROKERS" s environment)
    (hvalue : ∀ parts, Value.ofText true s ≠ .list parts) :
    ∃ text, ofVariables environment = .error (.settings text) := by
  obtain ⟨r, hlist⟩ : ∃ r, listField (Dict.ofList [("brokers", Value.ofText true s)]) "brokers"
      standard.brokers = .error r := by
    rw [listField, get?_single, if_pos rfl]
    cases hv : Value.ofText true s with
    | list parts => exact absurd hv (hvalue parts)
    | _ => exact ⟨_, rfl⟩
  refine ⟨r.message, ?_⟩
  simp only [ofVariables, load_brokers h, hlist]
  rfl

/-- Whatever the text of the brokers is, if nothing else of the section is set: the settings are
refused exactly if the text is a single value. All other texts are taken as lists: the text is the
one that the clients are given, no broker holds a comma, and the other fields keep their
defaults. -/
theorem brokers_of_variable (h : IsOnly "kafka" "KAFKA_BROKERS" s environment) :
    ((∃ text, ofVariables environment = .error (.settings text)) ↔ IsScalar s) ∧
    ((∃ brokers, ofVariables environment = .ok { standard with brokers := brokers } ∧
        bootstrapServers { standard with brokers := brokers } = s ∧
        ∀ broker ∈ brokers, ',' ∉ broker.toList) ↔ ¬IsScalar s) := by
  by_cases hscalar : IsScalar s
  · obtain ⟨text, herror⟩ := ofVariables_of_not_list h fun parts hvalue =>
      (ofText_eq_list_iff.mp hvalue).1 hscalar
    refine ⟨iff_of_true ⟨text, herror⟩ hscalar, iff_of_false ?_ (not_not_intro hscalar)⟩
    rintro ⟨brokers, hok, -⟩
    rw [herror] at hok
    cases hok
  · have hok := ofVariables_of_list h (ofText_eq_list_iff.mpr ⟨hscalar, rfl⟩)
    have hcomma : String.singleton ',' = "," := rfl
    have hjoin : Text.joinWith "," (Text.splitAt ',' s) = s := hcomma ▸ Text.joinWith_splitAt s
    refine ⟨iff_of_false ?_ hscalar, iff_of_true ⟨_, hok, hjoin, ?_⟩ hscalar⟩
    · rintro ⟨text, herror⟩
      rw [hok] at herror
      cases herror
    · exact fun broker hmem => Text.not_mem_of_mem_splitAt hmem

theorem brokers_with_empty_parts :
    IsOnly "kafka" "KAFKA_BROKERS" "k1:9092,,k2,"
      [("HOME", "/"), ("KAFKA_BROKERS", "k1:9092,,k2,")] ∧
    ∃ brokers, ofVariables [("HOME", "/"), ("KAFKA_BROKERS", "k1:9092,,k2,")]
        = .ok { standard with brokers := brokers } ∧
      bootstrapServers { standard with brokers := brokers } = "k1:9092,,k2," ∧
      ∀ broker ∈ brokers, ',' ∉ broker.toList := by
  have honly : IsOnly "kafka" "KAFKA_BROKERS" "k1:9092,,k2,"
      [("HOME", "/"), ("KAFKA_BROKERS", "k1:9092,,k2,")] := by
    refine ⟨by decide, by decide, ?_⟩
    have hsmall : (Text.lowercase "HOME").toList = "home".toList := by cbv
    have hhome : fieldName? "kafka" "HOME" = none := by
      rw [fieldName?, hsmall]
      rfl
    intro v hv hne
    rw [List.mem_cons, List.mem_singleton] at hv
    rcases hv with rfl | rfl
    · exact hhome
    · exact absurd rfl hne
  have hlist : Value.ofText true "k1:9092,,k2," = .list ["k1:9092", "", "k2", ""] := by cbv
  exact ⟨honly, (brokers_of_variable honly).2.mpr (ofText_eq_list_iff.mp hlist).1⟩

end Kafka

end Courier.Settings
