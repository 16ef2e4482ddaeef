import Mathlib
import Courier.Proofs.Text.Numeral
import Courier.Proofs.Text.Split
import Courier.Settings.Brokers

/-!
# Addresses of brokers

The address of an AMQP broker is made of five settings as they are, with a separator between them.
A text that holds a separator itself can be cut elsewhere, and then it is the address of another
user or another broker, too. `isIdentified_iff` says which settings can be told from their address:
those in which every separator that could be mistaken for one of the address is missing.
-/

namespace Courier.Settings.Amqp

/-! ## §1 What an address is made of -/

/-- Whether two settings are for the same user of the same broker. -/
structure Agrees (s t : Amqp) : Prop where
  user : s.user = t.user
  password : s.password = t.password
  host : s.host = t.host
  port : s.port = t.port
  vhost : s.vhost = t.vhost

/-- Ports are numbers of 16 bits. -/
def HasPort (s : Amqp) : Prop :=
  s.port < 1 <<< 16

instance (s : Amqp) : Decidable s.HasPort :=
  inferInstanceAs (Decidable (s.port < 1 <<< 16))

/-- Whether settings can be told from their address: no others have it. -/
def IsIdentified (s : Amqp) : Prop :=
  ∀ t : Amqp, t.HasPort → t.uri = s.uri → t.Agrees s

/-- Whether characters hold a port with its separators, like those after the host of an address. -/
def HoldsPort (cs : List Char) : Prop :=
  ∃ before n after, n < 1 <<< 16 ∧
    cs = before ++ ':' :: (Numeral.decimalDigits n ++ '/' :: after)

/-- Whether no separator in the settings can be mistaken for one of the address. -/
structure IsUnmistakable (s : Amqp) : Prop where
  user : ':' ∉ s.user.toList
  password : ':' ∉ s.password.toList
  password_at : '@' ∉ s.password.toList
  host_at : '@' ∉ s.host.toList
  host : ¬HoldsPort s.host.toList
  vhost : ¬HoldsPort s.vhost.toList

/-- The characters of an address from the host on. -/
def hostChars (s : Amqp) : List Char :=
  s.host.toList ++ ':' :: (Numeral.decimalDigits s.port ++ '/' :: s.vhost.toList)

/-- The characters of an address from the user on. -/
def userChars (s : Amqp) : List Char :=
  s.user.toList ++ ':' :: (s.password.toList ++ '@' :: s.hostChars)

theorem toList_uri (s : Amqp) : s.uri.toList = "amqp://".toList ++ s.userChars := by
  -- to unfold `uri` by its equation takes seconds
  delta uri
  simp [userChars, hostChars, Numeral.ofNat]

theorem uri_eq_iff {s t : Amqp} : t.uri = s.uri ↔ t.userChars = s.userChars := by
  rw [← String.toList_inj, toList_uri, toList_uri, List.append_cancel_left_eq]

/-! ## §2 Settings that can be told -/

theorem not_mem_decimalDigits (n : Nat) :
    ':' ∉ Numeral.decimalDigits n ∧ '/' ∉ Numeral.decimalDigits n := by
  have hdigits : ∀ c ∈ Numeral.decimalDigits n, c ≠ ':' ∧ c ≠ '/' :=
    Numeral.forall_mem_decimalDigits (by decide) n
  exact ⟨fun hmem => (hdigits _ hmem).1 rfl, fun hmem => (hdigits _ hmem).2 rfl⟩

section Port

variable {n m : Nat} {before after before' after' : List Char}

/-- Behind one port there is one number and one rest. -/
theorem port_eq (h : Numeral.decimalDigits n ++ '/' :: after
    = Numeral.decimalDigits m ++ '/' :: after') : n = m ∧ after = after' := by
  rcases Text.cut_eq_or (not_mem_decimalDigits m).2 h with ⟨hdigits, -, hafter⟩ | ⟨between, hn, -⟩
  · exact ⟨Numeral.ofNat_injective (congrArg String.ofList hdigits), hafter⟩
  · refine absurd ?_ (not_mem_decimalDigits n).2
    rw [hn]
    exact List.mem_append_right _ List.mem_cons_self

/-- A colon after a port stands behind the slash that ends it. -/
theorem behind_port (h : Numeral.decimalDigits n ++ '/' :: after = before' ++ ':' :: after') :
    ∃ between, before' = Numeral.decimalDigits n ++ '/' :: between ∧
      after = between ++ ':' :: after' := by
  rcases Text.cut_eq_or (not_mem_decimalDigits n).1 h.symm with ⟨-, hne, -⟩ | hbehind
  · exact absurd hne (by decide)
  · exact hbehind

/-- Where neither what is before a port nor what is behind it holds another one, the port is
found. -/
theorem port_cut (hn : n < 1 <<< 16) (hbefore : ¬HoldsPort before') (hafter : ¬HoldsPort after')
    (h : before ++ ':' :: (Numeral.decimalDigits n ++ '/' :: after)
      = before' ++ ':' :: (Numeral.decimalDigits m ++ '/' :: after')) :
    before = before' ∧ n = m ∧ after = after' := by
  rcases List.append_eq_append_iff.mp h with ⟨between, hlong, hrest⟩ | ⟨between, hlong, hrest⟩
  · cases between with
    | nil =>
      rw [List.append_nil] at hlong
      rw [List.nil_append, List.cons.injEq] at hrest
      exact ⟨hlong.symm, port_eq hrest.2⟩
    | cons c between =>
      rw [List.cons_append, List.cons.injEq] at hrest
      obtain ⟨rest, rfl, -⟩ := behind_port hrest.2
      rw [← hrest.1] at hlong
      exact absurd ⟨before, n, rest, hn, hlong⟩ hbefore
  · cases between with
    | nil =>
      rw [List.append_nil] at hlong
      rw [List.nil_append, List.cons.injEq] at hrest
      obtain ⟨rfl, rfl⟩ := port_eq hrest.2
      exact ⟨hlong, rfl, rfl⟩
    | cons c between =>
      rw [List.cons_append, List.cons.injEq] at hrest
      obtain ⟨rest, -, hvhost⟩ := behind_port hrest.2
      exact absurd ⟨rest, n, after, hn, hvhost⟩ hafter

end Port

/-- What comes before the last colon of an address is its host, without an at sign. -/
theorem IsUnmistakable.host_cut {s t : Amqp} (h : s.IsUnmistakable) (ht : t.HasPort)
    (front : List Char) (heq : front ++ t.hostChars = s.hostChars) :
    front ++ t.host.toList = s.host.toList ∧ t.port = s.port ∧ t.vhost = s.vhost := by
  rw [hostChars, hostChars, ← List.append_assoc] at heq
  obtain ⟨hhost, hport, hvhost⟩ := port_cut ht h.host h.vhost heq
  exact ⟨hhost, hport, String.toList_inj.mp hvhost⟩

/-- No at sign of another address can be found in what follows the one of this address. -/
theorem IsUnmistakable.not_at {s t : Amqp} (h : s.IsUnmistakable) (ht : t.HasPort)
    (front : List Char) : front ++ '@' :: t.hostChars ≠ s.hostChars := by
  intro heq
  have hhost : (front ++ ['@']) ++ t.hostChars = s.hostChars := by
    rw [List.append_assoc]
    exact heq
  have hmem : '@' ∈ s.host.toList := by
    rw [← (h.host_cut ht _ hhost).1]
    simp
  exact h.host_at hmem

/-- Settings without a separator that could be mistaken can be told from their address. -/
theorem IsUnmistakable.isIdentified {s : Amqp} (h : s.IsUnmistakable) : s.IsIdentified := by
  intro t ht heq
  rw [uri_eq_iff] at heq
  rcases Text.cut_eq_or h.user heq with ⟨huser, -, hrest⟩ | ⟨between, -, hrest⟩
  · rcases Text.cut_eq_or h.password_at hrest with ⟨hpassword, -, hhost⟩ | ⟨between, -, hhost⟩
    · obtain ⟨hhost, hport, hvhost⟩ := h.host_cut ht [] hhost
      exact ⟨String.toList_inj.mp huser, String.toList_inj.mp hpassword,
        String.toList_inj.mp hhost, hport, hvhost⟩
    · exact absurd hhost.symm (h.not_at ht between)
  · -- the user of the other address would go on behind the at sign of this one
    rcases Text.cut_eq_or h.password hrest.symm with ⟨-, hne, -⟩ | ⟨front, -, hhost⟩
    · exact absurd hne (by decide)
    · refine absurd ?_ (h.not_at ht (front ++ ':' :: t.password.toList))
      rw [hhost]
      simp

/-! ## §3 Settings that cannot be told -/

section Mistaken

variable {s : Amqp} {before after : List Char}

/-- The part of a text before a character is not the text. -/
theorem ofList_ne_of_append {part : String} {c : Char} (h : part.toList = before ++ c :: after) :
    String.ofList before ≠ part := by
  rintro rfl
  simp at h

/-- A text with more behind it is not the text. -/
theorem ofList_append_ne (part : String) (c : Char) (rest : List Char) :
    String.ofList (part.toList ++ c :: rest) ≠ part := by
  rw [Ne, ← String.toList_inj, String.toList_ofList]
  simp

theorem IsIdentified.colon_not_mem_user (hid : s.IsIdentified) (h : s.HasPort) :
    ':' ∉ s.user.toList := by
  intro hmem
  obtain ⟨before, after, huser⟩ := List.append_of_mem hmem
  let t : Amqp := { s with
    user := String.ofList before
    password := String.ofList (after ++ ':' :: s.password.toList) }
  have huri : t.uri = s.uri := by
    rw [uri_eq_iff]
    simp [t, userChars, hostChars, huser]
  exact ofList_ne_of_append huser (hid t h huri).user

theorem IsIdentified.colon_not_mem_password (hid : s.IsIdentified) (h : s.HasPort) :
    ':' ∉ s.password.toList := by
  intro hmem
  obtain ⟨before, after, hpassword⟩ := List.append_of_mem hmem
  let t : Amqp := { s with
    user := String.ofList (s.user.toList ++ ':' :: before)
    password := String.ofList after }
  have huri : t.uri = s.uri := by
    rw [uri_eq_iff]
    simp [t, userChars, hostChars, hpassword]
  exact ofList_append_ne _ _ _ (hid t h huri).user

theorem IsIdentified.at_not_mem_password (hid : s.IsIdentified) (h : s.HasPort) :
    '@' ∉ s.password.toList := by
  intro hmem
  obtain ⟨before, after, hpassword⟩ := List.append_of_mem hmem
  let t : Amqp := { s with
    password := String.ofList before
    host := String.ofList (after ++ '@' :: s.host.toList) }
  have huri : t.uri = s.uri := by
    rw [uri_eq_iff]
    simp [t, userChars, hostChars, hpassword]
  exact ofList_ne_of_append hpassword (hid t h huri).password

theorem IsIdentified.at_not_mem_host (hid : s.IsIdentified) (h : s.HasPort) :
    '@' ∉ s.host.toList := by
  intro hmem
  obtain ⟨before, after, hhost⟩ := List.append_of_mem hmem
  let t : Amqp := { s with
    password := String.ofList (s.password.toList ++ '@' :: before)
    host := String.ofList after }
  have huri : t.uri = s.uri := by
    rw [uri_eq_iff]
    simp [t, userChars, hostChars, hhost]
  exact ofList_append_ne _ _ _ (hid t h huri).password

theorem IsIdentified.not_holdsPort_host (hid : s.IsIdentified) : ¬HoldsPort s.host.toList := by
  rintro ⟨before, n, after, hn, hhost⟩
  let t : Amqp := { s with
    host := String.ofList before
    port := n
    vhost := String.ofList
      (after ++ ':' :: (Numeral.decimalDigits s.port ++ '/' :: s.vhost.toList)) }
  have huri : t.uri = s.uri := by
    rw [uri_eq_iff]
    simp [t, userChars, hostChars, hhost]
  exact ofList_ne_of_append hhost (hid t hn huri).host

theorem IsIdentified.not_holdsPort_vhost (hid : s.IsIdentified) : ¬HoldsPort s.vhost.toList := by
  rintro ⟨before, n, after, hn, hvhost⟩
  let t : Amqp := { s with
    host := String.ofList
      (s.host.toList ++ ':' :: (Numeral.decimalDigits s.port ++ '/' :: before))
    port := n
    vhost := String.ofList after }
  have huri : t.uri = s.uri := by
    rw [uri_eq_iff]
    simp [t, userChars, hostChars, hvhost]
  exact ofList_append_ne _ _ _ (hid t hn huri).host

end Mistaken

/-- Settings can be told from their address if, and only if, no separator in them can be mistaken
for one of the address. -/
theorem isIdentified_iff {s : Amqp} (h : s.HasPort) : s.IsIdentified ↔ s.IsUnmistakable := by
  refine ⟨fun hid => ?_, IsUnmistakable.isIdentified⟩
  exact {
    user := hid.colon_not_mem_user h
    password := hid.colon_not_mem_password h
    password_at := hid.at_not_mem_password h
    host_at := hid.at_not_mem_host h
    host := hid.not_holdsPort_host
    vhost := hid.not_holdsPort_vhost }

/-- Separators where they do no harm. -/
def harmless : Amqp where
  host := "rabbit"
  port := 5673
  user := "svc@corp"
  password := "p/w"
  vhost := "orders@eu/1"
  connectionName := "orders"

theorem HoldsPort.colon_mem {cs : List Char} (h : HoldsPort cs) : ':' ∈ cs := by
  obtain ⟨before, n, after, -, rfl⟩ := h
  exact List.mem_append_right _ List.mem_cons_self

theorem harmless_isIdentified : harmless.HasPort ∧ harmless.IsIdentified := by
  have hport : harmless.HasPort := by decide
  refine ⟨hport, (isIdentified_iff hport).mpr ?_⟩
  exact {
    user := by decide
    password := by decide
    password_at := by decide
    host_at := by decide
    host := fun hholds => absurd hholds.colon_mem (by decide)
    vhost := fun hholds => absurd hholds.colon_mem (by decide) }

/-- Two logins with one address: the colon may end the user or be in the password. -/
theorem not_identified_by_uri :
    ¬∀ s t : Amqp, s.HasPort → t.HasPort → s.uri = t.uri → s.Agrees t := by
  intro h
  have hagrees := h { standard with user := "a:b", password := "c" }
    { standard with user := "a", password := "b:c" } (by decide) (by decide) (by decide)
  exact absurd hagrees.user (by decide)

end Courier.Settings.Amqp
