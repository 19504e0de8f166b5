import Rerank.Proofs.Url.Host

/-!
# Authorities

The credentials of an authority are encoded, its host can be told from its text, and its port is not
the one that the scheme has anyway.  Such an authority is read back from its text.
-/

namespace Rerank.Url

/-- Authorities as they stand in urls of a kind, if they have a host. -/
structure Authority.Canonical [Idna] (kind : SchemeKind) (a : Authority) : Prop where
  username : ∀ c ∈ a.username.toList, Kept inUserinfoSet c
  password : ∀ password, a.password = some password →
    password ≠ "" ∧ ∀ c ∈ password.toList, Kept inUserinfoSet c
  host : a.host.ReadsBack kind
  port : ∀ port, a.port = some port → port ≤ 65535 ∧ kind ≠ .special port

section Credentials

theorem splitCredentials?_of_not_mem {cs : List Char} (hcs : '@' ∉ cs) :
    splitCredentials? cs = none := by
  have hall : cs.reverse.takeWhile (· != '@') = cs.reverse := by
    rw [List.takeWhile_eq_self_iff]
    intro c hc
    rw [bne_iff_ne]
    rintro rfl
    exact hcs (List.mem_reverse.1 hc)
  rw [splitCredentials?, hall, List.reverse_reverse]
  exact if_neg (Nat.lt_irrefl _)

theorem splitCredentials?_append {location : List Char} (hlocation : '@' ∉ location)
    (credentials : List Char) :
    splitCredentials? (credentials ++ '@' :: location) = some (credentials, location) := by
  have hback :
      (credentials ++ '@' :: location).reverse.takeWhile (· != '@') = location.reverse := by
    rw [List.reverse_append, List.reverse_cons, List.append_assoc, List.takeWhile_append_of_pos]
    · simp
    · intro c hc
      rw [bne_iff_ne]
      rintro rfl
      exact hlocation (List.mem_reverse.1 hc)
  have hcount : (credentials ++ '@' :: location).length - location.length - 1 =
      credentials.length := by
    rw [List.length_append, List.length_cons]
    omega
  rw [splitCredentials?, hback, List.reverse_reverse, hcount, List.take_left]
  exact if_pos (by simp; omega)

theorem kept_of_readCredentials (cs : List Char) :
    (∀ c ∈ (readCredentials cs).1.toList, Kept inUserinfoSet c) ∧
      ∀ password, (readCredentials cs).2 = some password →
        password ≠ "" ∧ ∀ c ∈ password.toList, Kept inUserinfoSet c := by
  have hkept (part : List Char) :
      ∀ c ∈ (String.ofList (percentEncode inUserinfoSet part)).toList, Kept inUserinfoSet c := by
    intro c hc
    rw [String.toList_ofList] at hc
    exact kept_of_mem_percentEncode kept_inUserinfoSet_of_mem_escapeChars hc
  rw [readCredentials]
  dsimp only
  split
  · refine ⟨hkept _, ?_⟩
    rintro _ ⟨⟩
    refine ⟨?_, hkept _⟩
    rw [Ne, String.ofList_eq_empty_iff]
    exact percentEncode_cons_ne_nil _ _
  · exact ⟨hkept _, nofun⟩

variable {username : List Char} (husername : ∀ c ∈ username, Kept inUserinfoSet c)

include husername

theorem ne_colon_of_kept : ∀ c ∈ username, (c != ':') = true :=
  fun c hc => bne_iff_ne.2 (inner_of_kept_inUserinfoSet (husername c hc)).2.2

/-- Encoded credentials are read as they are. -/
theorem readCredentials_of_kept : readCredentials username = (String.ofList username, none) := by
  have hcolon := ne_colon_of_kept husername
  have hnone : username.dropWhile (· != ':') = [] := List.dropWhile_eq_nil_iff.2 hcolon
  rw [readCredentials, List.takeWhile_eq_self_iff.2 hcolon, hnone]
  dsimp only
  rw [percentEncode_of_kept husername]

theorem readCredentials_append {password : List Char} (hne : password ≠ [])
    (hpassword : ∀ c ∈ password, Kept inUserinfoSet c) :
    readCredentials (username ++ ':' :: password) =
      (String.ofList username, some (String.ofList password)) := by
  have hcolon := ne_colon_of_kept husername
  obtain ⟨c, rest, rfl⟩ := List.exists_cons_of_ne_nil hne
  rw [readCredentials, List.takeWhile_append_of_pos hcolon, List.dropWhile_append_of_pos hcolon]
  simp only [List.takeWhile_cons, List.dropWhile_cons, bne_self_eq_false, Bool.false_eq_true,
    if_false, List.append_nil]
  rw [percentEncode_of_kept husername, percentEncode_of_kept hpassword]

end Credentials

section Port

theorem readPort_toDigits {port : Nat} (hport : port ≤ 65535) :
    readPort (Nat.toDigits 10 port) = .ok (some port, []) := by
  have hdigits : ∀ c ∈ Nat.toDigits 10 port, c.isDigit = true :=
    fun c hc => Nat.isDigit_of_mem_toDigits (by omega) le_rfl hc
  have hvalue :
      (Nat.toDigits 10 port).foldl (fun n d => n * 10 + (d.toNat - '0'.toNat)) 0 = port := by
    have hcore : Nat.ofDigitChars 10 (Nat.toDigits 10 port) 0 = port :=
      Nat.ofDigitChars_toDigits (by omega) le_rfl
    simpa only [Nat.ofDigitChars, Nat.mul_comm 10] using hcore
  have hrest : (Nat.toDigits 10 port).dropWhile Char.isDigit = [] :=
    List.dropWhile_eq_nil_iff.2 hdigits
  have hsome : (if (Nat.toDigits 10 port).isEmpty then none else some port) = some port :=
    if_neg (by simp [Nat.toDigits_ne_nil])
  rw [readPort, List.takeWhile_eq_self_iff.2 hdigits, hrest, hvalue, if_neg (Nat.not_lt.2 hport),
    hsome]

theorem le_of_readPort {cs rest : List Char} {port : Nat}
    (hread : readPort cs = .ok (some port, rest)) : port ≤ 65535 := by
  rw [readPort] at hread
  split at hread
  · contradiction
  next hle =>
  have hport {digits : List Char} {value : Nat} (hle : ¬ 65535 < value)
      (hsome : (if digits.isEmpty then none else some value) = some port) : port ≤ 65535 := by
    split at hsome
    · contradiction
    · cases hsome
      omega
  split at hread
  · exact hport hle (Prod.ext_iff.1 (Except.ok.inj hread)).1
  · exact hport hle (Prod.ext_iff.1 (Except.ok.inj hread)).1
  · contradiction

end Port

namespace Authority

variable {kind : SchemeKind} {a : Authority}

/-- The text of the credentials without the sign that ends them, if there are any. -/
def credentials? (a : Authority) : Option (List Char) :=
  match a.password with
  | some password => some (a.username.toList ++ ':' :: password.toList)
  | none => if a.username.isEmpty then none else some a.username.toList

/-- The text of the port, with the colon before it. -/
def portText (a : Authority) : List Char :=
  match a.port with
  | some port => ':' :: Nat.toDigits 10 port
  | none => []

theorem toList_text (a : Authority) :
    a.text.toList = (a.credentials?.elim [] fun cs => cs ++ ['@']) ++
      (a.host.text.toList ++ a.portText) := by
  have huserinfo : a.userinfo.toList = a.credentials?.elim [] fun cs => cs ++ ['@'] := by
    rw [userinfo, credentials?]
    cases a.password with
    | some password => simp
    | none =>
      dsimp only
      split
      · rfl
      · simp
  rw [text, String.toList_append, String.toList_append, huserinfo, List.append_assoc, portText]
  cases a.port with
  | some port =>
    have htext : (toString ":" ++ toString port).toList = ':' :: Nat.toDigits 10 port := by
      change (":" ++ Nat.repr port).toList = _
      simp [Nat.repr_eq_ofList_toDigits]
    dsimp only
    rw [htext]
  | none => rfl

theorem credentials?_ne_some_nil (a : Authority) : a.credentials? ≠ some [] := by
  rw [credentials?]
  cases a.password with
  | some password => simp
  | none =>
    dsimp only
    split
    · exact nofun
    · next hne => simpa using hne

variable [Idna]

theorem Canonical.text_ne_nil (ha : a.Canonical kind) : a.text.toList ≠ [] := by
  rw [toList_text]
  simp [ha.host.ne_nil]

/-- Host and port hold nothing that would end the authority or its credentials. -/
theorem Canonical.inner_location (ha : a.Canonical kind) :
    ∀ c ∈ a.host.text.toList ++ a.portText, isInner c = true ∧ c ≠ '@' := by
  rw [List.forall_mem_append]
  refine ⟨ha.host.inner, ?_⟩
  rw [portText]
  cases a.port with
  | none => exact nofun
  | some port =>
    rw [List.forall_mem_cons]
    refine ⟨by decide, ?_⟩
    intro c hc
    obtain ⟨d, hd, rfl⟩ := exists_digitChar_of_mem_toDigits (by omega) hc
    obtain ⟨hinner, hat, -⟩ := inner_digitChar (show d < 16 by omega)
    exact ⟨hinner, hat⟩

theorem Canonical.inner (ha : a.Canonical kind) : ∀ c ∈ a.text.toList, isInner c = true := by
  rw [toList_text, List.forall_mem_append]
  refine ⟨?_, fun c hc => (ha.inner_location c hc).1⟩
  have husername : ∀ c ∈ a.username.toList, isInner c = true :=
    fun c hc => (inner_of_kept_inUserinfoSet (ha.username c hc)).1
  have hsigns : isInner ':' = true ∧ isInner '@' = true := by decide
  rw [credentials?]
  cases hpassword : a.password with
  | some password =>
    simp only [Option.elim_some, List.forall_mem_append, List.forall_mem_cons]
    refine ⟨⟨husername, hsigns.1, ?_⟩, hsigns.2, nofun⟩
    exact fun c hc => (inner_of_kept_inUserinfoSet ((ha.password password hpassword).2 c hc)).1
  | none =>
    dsimp only
    split
    · exact nofun
    · simp only [Option.elim_some, List.forall_mem_append, List.forall_mem_cons]
      exact ⟨husername, hsigns.2, nofun⟩

/-- An authority does not end in a slash. -/
theorem Canonical.ne_slash_of_getLast? (ha : a.Canonical kind) {front : List Char} {c : Char}
    (hc : (front ++ a.text.toList).getLast? = some c) : c ≠ '/' := by
  obtain hnil | ⟨more, last, hlast⟩ := List.eq_nil_or_concat' a.text.toList
  · exact absurd hnil ha.text_ne_nil
  rw [hlast, ← List.append_assoc, List.getLast?_concat] at hc
  obtain rfl := Option.some.inj hc
  have hinner := ha.inner last (by simp [hlast])
  rintro rfl
  exact absurd (isInner_iff.1 hinner).2.1 (by decide)

/-- The slashes before an authority end with it. -/
theorem Canonical.dropWhile_slashes (ha : a.Canonical kind) (rest : List Char) :
    ('/' :: '/' :: (a.text.toList ++ rest)).dropWhile (Path.isSlash true) =
      a.text.toList ++ rest := by
  obtain ⟨c, more, hcons⟩ := List.exists_cons_of_ne_nil ha.text_ne_nil
  have hc := (isInner_iff.1 (ha.inner c (hcons ▸ List.mem_cons_self))).2.1
  rw [List.dropWhile_cons_of_pos rfl, List.dropWhile_cons_of_pos rfl, hcons, List.cons_append,
    List.dropWhile_cons_of_neg (by simp [hc])]

theorem Canonical.readCredentials (ha : a.Canonical kind) :
    readCredentials (a.credentials?.getD []) = (a.username, a.password) := by
  rw [credentials?]
  cases hpassword : a.password with
  | some password =>
    obtain ⟨hne, hkept⟩ := ha.password password hpassword
    rw [Option.getD_some, readCredentials_append ha.username (by simpa using hne) hkept]
    simp
  | none =>
    dsimp only
    split
    · next hempty =>
      rw [String.isEmpty_iff] at hempty
      rw [hempty]
      rfl
    · rw [Option.getD_some, readCredentials_of_kept ha.username]
      simp

/-- An authority is read back from its text. -/
theorem readAuthority_text (ha : a.Canonical kind) (atEnd : Bool) :
    readAuthority kind atEnd a.text.toList = .ok (a, []) := by
  have hat : '@' ∉ a.host.text.toList ++ a.portText := fun h => (ha.inner_location '@' h).2 rfl
  have hhead : a.portText.head?.all (· == ':') = true := by
    rw [portText]
    cases a.port <;> rfl
  have hcredentials := ha.readCredentials
  have hnil : (a.credentials? == some []) = false :=
    beq_eq_false_iff_ne.2 a.credentials?_ne_some_nil
  have hhost : a.host.text.toList.isEmpty = false := List.isEmpty_eq_false_iff.2 ha.host.ne_nil
  have hdefault : (a.port.map SchemeKind.special == some kind) = false := by
    rw [beq_eq_false_iff_ne]
    intro hsame
    obtain ⟨port, hsome, hport⟩ := Option.map_eq_some_iff.1 hsame
    exact (ha.port port hsome).2 hport.symm
  rw [toList_text, readAuthority]
  dsimp only [bind, Except.bind, throw, throwThe, MonadExceptOf.throw, pure, Except.pure]
  cases hcs : a.credentials?
  case' none =>
    rw [Option.elim_none, List.nil_append, splitCredentials?_of_not_mem hat]
  case' some cs =>
    rw [Option.elim_some, List.append_assoc, List.singleton_append, splitCredentials?_append hat]
  -- Either way the credentials and the rest are now apart.
  all_goals
    rw [hcs] at hnil hcredentials
    have hread := ha.host.read
    cases hkind : kind.isSpecial
  all_goals
    rw [hkind] at hread
    simp only [Bool.false_eq_true, if_false, if_true] at hread
    simp only [hnil, ha.host.split _ hhead, hhost, hread, ha.host.isEmpty_eq_false, hcredentials,
      Bool.false_and, Bool.and_false, Bool.false_eq_true, if_false, if_true]
    cases hport : a.port with
    | none =>
      simp only [portText, hport, ite_self]
      rw [← hport]
    | some port =>
      rw [hport] at hdefault
      simp only [portText, hport, readPort_toDigits (ha.port port hport).1, hdefault]
      rw [← hport]
      rfl

/-- A host alone is an authority. -/
theorem canonical_of_host {host : Host} (hhost : host.ReadsBack kind) :
    Canonical kind { username := "", password := none, host, port := none } where
  username := by simp
  password := by simp
  host := hhost
  port := by simp

/-- What is read of an authority is canonical once its host and its port are. -/
theorem canonical_of_read (credentials : List Char) {host : Host} (hhost : host.ReadsBack kind)
    {port : Option Nat} (hport : ∀ p, port = some p → p ≤ 65535) :
    Canonical kind {
      username := (Url.readCredentials credentials).1
      password := (Url.readCredentials credentials).2
      host
      port := if port.map SchemeKind.special == some kind then none else port } := by
  obtain ⟨husername, hpassword⟩ := kept_of_readCredentials credentials
  refine ⟨husername, hpassword, hhost, ?_⟩
  intro p hp
  dsimp only at hp
  split at hp
  · contradiction
  · next hkind =>
    refine ⟨hport p hp, ?_⟩
    rintro rfl
    simp [hp] at hkind

theorem canonical_of_readAuthority {atEnd : Bool} {cs rest : List Char}
    (hread : readAuthority kind atEnd cs = .ok (a, rest))
    (hempty : kind.isSpecial = false → a.host.isEmpty = false) : a.Canonical kind := by
  rw [readAuthority] at hread
  dsimp only [bind, Except.bind, throw, throwThe, MonadExceptOf.throw, pure, Except.pure] at hread
  cases hsplit : splitCredentials? cs
  all_goals
    rw [hsplit] at hread
    cases hkind : kind.isSpecial
  all_goals
    rw [hkind] at hread
    simp only [Bool.false_eq_true, if_false, if_true] at hread
    split at hread
    · contradiction
    split at hread
    · contradiction
    split at hread
    · contradiction
    next host hhost =>
    have hback (hempty : kind.isSpecial = false → host.isEmpty = false) : host.ReadsBack kind :=
      Host.readsBack_of_read (by rw [hkind]; exact hhost) hempty
    split at hread
    · contradiction
    split at hread
    · split at hread
      · contradiction
      next port hport =>
      split at hread
      · contradiction
      cases hread
      apply canonical_of_read _ (hback hempty)
      intro p hp
      rw [show port = (some p, port.2) from Prod.ext hp rfl] at hport
      exact le_of_readPort hport
    · split at hread
      · contradiction
      cases hread
      exact canonical_of_read _ (hback hempty) nofun

end Authority

end Rerank.Url
