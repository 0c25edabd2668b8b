/-
  File:      MatriXpost/Desktop/Accounts.lean
  Subject:   THE ACCOUNTS THE DESKTOP SAVES: each under an identifier made from its platform and
             display name, which the store upserts by.

  Sources: `matrixpost-desktop/src/projection.rs` (`account_id`, `article_account_id`,
  `account_slug`, `article_account_status`), `matrixpost-desktop/src/service.rs` (`save_account`,
  `save_article_account`), `storage.rs` (`save_account`, `save_article_account`,
  `validate_account_route`).

  * `accountSlug_eq_iff`: two names have one slug exactly if they are `Confusable`, which is said
    of their characters;
  * `present_saves` says once what a call does to both tables;
  * `accounts_kept_iff`: in a run of successful calls every account is kept exactly if no two
    names of one platform in it are confusable.
-/
import MatriXpost.Core.Request
import MatriXpost.Lib.Select
import MatriXpost.Lib.Table
import MatriXpost.Lib.Trace
import Mathlib.Data.List.Induction

namespace MatriXpost

namespace Desktop

/-! ## 1. Identifiers -/

/-- `char::is_ascii_alphanumeric`. -/
def isAlphanumeric (c : Char) : Bool :=
  ('a' ≤ c && c ≤ 'z') || ('A' ≤ c && c ≤ 'Z') || ('0' ≤ c && c ≤ '9')

/-- `str::trim_matches`, on characters. -/
def trimMatches (p : Char → Bool) (s : List Char) : List Char :=
  ((s.dropWhile p).reverse.dropWhile p).reverse

/-- What a character becomes in a slug. -/
def slugChar (c : Char) : Char := if isAlphanumeric c then asciiLower c else '-'

/-- `account_slug`. -/
def accountSlug (displayName : String) : String :=
  let slug := trimMatches (· = '-') (displayName.toList.map slugChar)
  if slug = [] then "account" else String.ofList slug

/-- `account_id`. -/
def accountId (platform : Platform) (displayName : String) : String :=
  platform.asStr ++ "-" ++ accountSlug displayName

/-- `article_account_id`. -/
def articleAccountId (displayName : String) : String := "juejin-" ++ accountSlug displayName

/-! ## 2. The store -/

/-- `AccountStatus`, and `ArticleAccountStatus`, which has the same states. -/
inductive AccountStatus where
  | loggedIn | expired | loggedOut | unavailable
deriving DecidableEq, Repr

/-- `account_status_db`, and `article_account_status_db`. -/
def AccountStatus.db : AccountStatus → String
  | .loggedIn => "logged_in"
  | .expired => "expired"
  | .loggedOut => "logged_out"
  | .unavailable => "unavailable"

/-- `account_status_from_db`, and `article_account_status_from_db`. -/
def AccountStatus.fromDb : String → Except DomainError AccountStatus
  | "logged_in" => .ok .loggedIn
  | "expired" => .ok .expired
  | "logged_out" => .ok .loggedOut
  | "unavailable" => .ok .unavailable
  | value => .error (.corruptState value)

theorem AccountStatus.fromDb_db (status : AccountStatus) : fromDb status.db = .ok status := by
  cases status <;> rfl

/-- `Account` and `ArticleAccount`, by the type of their platforms. -/
structure AccountOf (P : Type) where
  id : String
  platform : P
  displayName : String
  status : AccountStatus
  phone : String
  partition : String
deriving DecidableEq, Repr

abbrev Account := AccountOf Platform
abbrev ArticleAccount := AccountOf ArticlePlatform

/-- A row of `accounts` or `article_accounts`. -/
structure AccountRow where
  id : String
  platform : String
  displayName : String
  status : String
  phone : String
  partition : String
deriving DecidableEq, Repr

/-- The columns of an account. -/
def AccountOf.toRow {P : Type} (platformDb : P → String) (account : AccountOf P) : AccountRow where
  id := account.id
  platform := platformDb account.platform
  displayName := account.displayName
  status := account.status.db
  phone := account.phone
  partition := account.partition

/-- A row as `accounts` and `article_accounts` read it. -/
def AccountRow.read {P : Type} (platformFromDb : String → Except DomainError P) (row : AccountRow) :
    Except DomainError (AccountOf P) := do
  return ⟨row.id, ← platformFromDb row.platform, row.displayName, ← AccountStatus.fromDb row.status,
    row.phone, row.partition⟩

/-- **What was saved is read back.** -/
theorem read_toRow {P : Type} {platformDb : P → String}
    {platformFromDb : String → Except DomainError P}
    (h : ∀ platform, platformFromDb (platformDb platform) = .ok platform) (account : AccountOf P) :
    (account.toRow platformDb).read platformFromDb = .ok account := by
  simp only [AccountRow.read, AccountOf.toRow, h, AccountStatus.fromDb_db]
  rfl

/-- The two tables. -/
structure AccountStore where
  accounts : Table AccountRow.id
  articleAccounts : Table AccountRow.id

/-- `DomainError::InvalidAccountRoute`, as `DesktopError::from` prints it. -/
def invalidAccountRoute : DesktopError :=
  .invalidRequest "account phone must be non-empty and partition must start with persist:"

/-- `validate_account_route`. -/
def validateAccountRoute (phone partition : String) : Except DesktopError Unit :=
  if isBlank phone || isBlank partition || !"persist:".toList.isPrefixOf partition.toList then
    .error invalidAccountRoute
  else .ok ()

/-- `INSERT … ON CONFLICT(id) DO UPDATE SET` every other column. -/
def upsertAccount (t : Table AccountRow.id) (row : AccountRow) : Table AccountRow.id :=
  t.upsert row (fun old => { row with id := old.id }) (fun _ => rfl)

/-- `save_account` of the repository. -/
def AccountStore.saveAccount (s : AccountStore) (account : Account) :
    Except DesktopError AccountStore := do
  validateAccountRoute account.phone account.partition
  return { s with accounts := upsertAccount s.accounts (account.toRow Platform.asStr) }

/-- `save_article_account` of the repository. -/
def AccountStore.saveArticleAccount (s : AccountStore) (account : ArticleAccount) :
    Except DesktopError AccountStore := do
  validateAccountRoute account.phone account.partition
  return { s with
    articleAccounts := upsertAccount s.articleAccounts (account.toRow articlePlatformDb) }

/-! ## 3. The service -/

structure SaveAccountInput where
  platform : String
  displayName : String
  status : String
  phone : String
  partition : String

structure SaveArticleAccountInput where
  displayName : String
  status : String
  phone : String
  partition : String

/-- The status a trimmed text names; `kind` is how the message calls the account. -/
def parseStatus (kind value : String) : Except DesktopError AccountStatus :=
  match AccountStatus.fromDb (trim value) with
  | .ok status => .ok status
  | .error _ => .error (.invalidRequest ("unknown " ++ kind ++ " status: " ++ trim value))

/-- `save_account`, up to the repository: the account an input describes. -/
def SaveAccountInput.account (input : SaveAccountInput) : Except DesktopError Account := do
  let platform ← (Platform.fromStr input.platform).mapError (.invalidRequest ·.text)
  let displayName := trim input.displayName
  if displayName = "" then .error (.invalidRequest "account display name cannot be empty")
  else do
    let status ← parseStatus "account" input.status
    return ⟨accountId platform displayName, platform, displayName, status, trim input.phone,
      trim input.partition⟩

/-- `save_account`. -/
def saveAccount (s : AccountStore) (input : SaveAccountInput) :
    Except DesktopError (String × AccountStore) := do
  let account ← input.account
  return (account.id, ← s.saveAccount account)

/-- `save_article_account`, up to the repository. -/
def SaveArticleAccountInput.account (input : SaveArticleAccountInput) :
    Except DesktopError ArticleAccount :=
  let displayName := trim input.displayName
  if displayName = "" then .error (.invalidRequest "article account display name cannot be empty")
  else do
    let status ← parseStatus "article account" input.status
    return ⟨articleAccountId displayName, .juejin, displayName, status, trim input.phone,
      trim input.partition⟩

/-- `save_article_account`. -/
def saveArticleAccount (s : AccountStore) (input : SaveArticleAccountInput) :
    Except DesktopError (String × AccountStore) := do
  let account ← input.account
  return (account.id, ← s.saveArticleAccount account)

/-! ## 4. When two names have one identifier -/

/-- Two characters a slug does not tell apart: neither is an ASCII letter or digit, or both are and
    differ at most in case. -/
def SameChar (c d : Char) : Prop :=
  isAlphanumeric c = isAlphanumeric d ∧ (isAlphanumeric c = true → asciiLower c = asciiLower d)

/-- A name without what precedes its first and follows its last ASCII letter or digit; a name that
    has none stands for `account`. -/
def nameCore (displayName : String) : List Char :=
  let core := trimMatches (fun c => !isAlphanumeric c) displayName.toList
  if core = [] then "account".toList else core

/-- Two names that agree, character by character, up to ASCII case and up to what characters other
    than ASCII letters and digits there are. -/
def Confusable (name name' : String) : Prop :=
  List.Forall₂ SameChar (nameCore name) (nameCore name')

/-- A letter in lower case is not a dash. -/
theorem asciiLower_ne_dash {c : Char} (hc : isAlphanumeric c = true) : asciiLower c ≠ '-' := by
  unfold asciiLower
  split
  · rename_i hupper
    have hle : c.toNat < 91 := Nat.lt_succ_of_le hupper.2
    have hge : 65 ≤ c.toNat := hupper.1
    have hall : ∀ n < 91, 65 ≤ n → Char.ofNat (n + 32) ≠ '-' := by decide
    exact hall c.toNat hle hge
  · intro he
    rw [he] at hc
    exact absurd hc (by decide)

theorem slugChar_eq_dash (c : Char) : decide (slugChar c = '-') = !isAlphanumeric c := by
  unfold slugChar
  cases hc : isAlphanumeric c with
  | false => rfl
  | true => simp [asciiLower_ne_dash hc]

theorem slugChar_eq_iff {c d : Char} : slugChar c = slugChar d ↔ SameChar c d := by
  unfold slugChar SameChar
  cases hc : isAlphanumeric c <;> cases hd : isAlphanumeric d
  · simp
  · simp [(asciiLower_ne_dash hd).symm]
  · simp [asciiLower_ne_dash hc]
  · simp

/-- Trimming what a map makes of a text is mapping what trimming leaves of it. -/
theorem trimMatches_map {f : Char → Char} {p q : Char → Bool} (h : ∀ c, p (f c) = q c)
    (s : List Char) : trimMatches p (s.map f) = (trimMatches q s).map f := by
  have hpq : p ∘ f = q := funext h
  unfold trimMatches
  rw [List.dropWhile_map, hpq, ← List.map_reverse, List.dropWhile_map, hpq, ← List.map_reverse]

/-- A slug spells the core of its name. -/
theorem accountSlug_eq (displayName : String) :
    accountSlug displayName = String.ofList ((nameCore displayName).map slugChar) := by
  unfold accountSlug nameCore
  rw [trimMatches_map slugChar_eq_dash]
  dsimp only
  by_cases hcore : trimMatches (fun c => !isAlphanumeric c) displayName.toList = []
  · rw [if_pos (by rw [hcore]; rfl), if_pos hcore]
    decide
  · rw [if_neg (fun h => hcore (List.map_eq_nil_iff.mp h)), if_neg hcore]

/-- **Two names have one slug exactly if they are confusable.** -/
theorem accountSlug_eq_iff {name name' : String} :
    accountSlug name = accountSlug name' ↔ Confusable name name' := by
  have hsame : (fun c d => slugChar c = slugChar d) = SameChar := by
    funext c d
    exact propext slugChar_eq_iff
  rw [accountSlug_eq, accountSlug_eq, String.ofList_inj]
  unfold Confusable
  rw [← hsame, ← List.forall₂_eq_eq_eq, List.forall₂_map_left_iff, List.forall₂_map_right_iff]

/-- A code has no dash, so the dash after it ends it. -/
theorem takeWhile_code (platform : Platform) (rest : List Char) :
    (platform.asStr.toList ++ '-' :: rest).takeWhile (· ≠ '-') = platform.asStr.toList := by
  cases platform <;> simp [Platform.asStr]

theorem asStr_inj {platform platform' : Platform}
    (h : platform.asStr = platform'.asStr) : platform = platform' := by
  have hname := Platform.fromSpelling_asStr platform
  rw [h, Platform.fromSpelling_asStr] at hname
  exact (Option.some.inj hname).symm

/-- **Two video accounts have one identifier exactly if they have one platform and confusable
    names.** -/
theorem accountId_eq_iff {platform platform' : Platform} {name name' : String} :
    accountId platform name = accountId platform' name' ↔
      platform = platform' ∧ Confusable name name' := by
  rw [← accountSlug_eq_iff]
  unfold accountId
  constructor
  · intro h
    have hlist := congrArg String.toList h
    simp only [String.toList_append, String.append_assoc] at hlist
    have hcode := congrArg (List.takeWhile (· ≠ '-')) hlist
    have hdash : "-".toList = ['-'] := rfl
    rw [hdash, List.singleton_append, List.singleton_append, takeWhile_code, takeWhile_code,
      String.toList_inj] at hcode
    have hplatform := asStr_inj hcode
    subst hplatform
    refine ⟨rfl, ?_⟩
    rw [← String.toList_inj]
    exact List.append_cancel_left (List.append_cancel_left hlist)
  · intro h
    rw [h.1, h.2]

theorem articleAccountId_eq_iff {name name' : String} :
    articleAccountId name = articleAccountId name' ↔ Confusable name name' := by
  rw [← accountSlug_eq_iff]
  unfold articleAccountId
  simp

/-! ## 5. What a call leaves in the tables -/

/-- A call of the service. -/
inductive AccountCall where
  | save (input : SaveAccountInput)
  | saveArticle (input : SaveArticleAccountInput)

def AccountCall.run (s : AccountStore) : AccountCall → Except DesktopError (String × AccountStore)
  | .save input => saveAccount s input
  | .saveArticle input => saveArticleAccount s input

/-- A successful call. -/
def Saves (s : AccountStore) (call : AccountCall) (s' : AccountStore) : Prop :=
  ∃ id, call.run s = .ok (id, s')

/-- A platform of either kind. -/
inductive AccountPlatform where
  | video (platform : Platform)
  | article (platform : ArticlePlatform)
deriving DecidableEq, Repr

/-- An account of either kind. -/
inductive SavedAccount where
  | video (account : Account)
  | article (account : ArticleAccount)
deriving DecidableEq, Repr

/-- The table of an account. -/
inductive AccountTable where
  | accounts | articleAccounts
deriving DecidableEq, Repr

/-- The platform and the trimmed display name of a call. -/
def AccountCall.key : AccountCall → Option (AccountPlatform × String)
  | .save input =>
    (Platform.fromStr input.platform).toOption.map fun p => (.video p, trim input.displayName)
  | .saveArticle input => some (.article .juejin, trim input.displayName)

/-- The account a call describes. -/
def AccountCall.saved : AccountCall → Option SavedAccount
  | .save input => input.account.toOption.map .video
  | .saveArticle input => input.account.toOption.map .article

namespace SavedAccount

def key : SavedAccount → AccountPlatform × String
  | video account => (.video account.platform, account.displayName)
  | article account => (.article account.platform, account.displayName)

/-- Where the account is upserted. -/
def slot : SavedAccount → AccountTable × String
  | video account => (.accounts, account.id)
  | article account => (.articleAccounts, account.id)

end SavedAccount

/-- Where the accounts of a key are upserted. -/
def slotOf : AccountPlatform × String → AccountTable × String
  | (.video platform, name) => (.accounts, accountId platform name)
  | (.article _, name) => (.articleAccounts, articleAccountId name)

theorem slotOf_eq_iff {k k' : AccountPlatform × String} :
    slotOf k = slotOf k' ↔ k.1 = k'.1 ∧ Confusable k.2 k'.2 := by
  obtain ⟨p, name⟩ := k
  obtain ⟨p', name'⟩ := k'
  cases p with
  | video p =>
    cases p' with
    | video p' => simp [slotOf, accountId_eq_iff]
    | article p' => simp [slotOf]
  | article p =>
    cases p' with
    | video p' => simp [slotOf]
    | article p' =>
      cases p
      cases p'
      simp [slotOf, articleAccountId_eq_iff]

/-- What an input of `save_account` describes. -/
theorem SaveAccountInput.account_ok {input : SaveAccountInput} {account : Account}
    (h : input.account = .ok account) :
    Platform.fromStr input.platform = .ok account.platform ∧
      account.displayName = trim input.displayName ∧
      account.id = accountId account.platform account.displayName := by
  unfold SaveAccountInput.account at h
  obtain ⟨platform, hplatform, h⟩ := except_bind_ok.mp h
  dsimp only at h
  split at h
  · cases h
  · obtain ⟨status, -, h⟩ := except_bind_ok.mp h
    cases h
    refine ⟨?_, rfl, rfl⟩
    cases hname : Platform.fromStr input.platform with
    | error e => rw [hname] at hplatform; cases hplatform
    | ok platform' => rw [hname] at hplatform; cases hplatform; rfl

/-- What an input of `save_article_account` describes. -/
theorem SaveArticleAccountInput.account_ok {input : SaveArticleAccountInput}
    {account : ArticleAccount} (h : input.account = .ok account) :
    account.displayName = trim input.displayName ∧
      account.id = articleAccountId account.displayName := by
  unfold SaveArticleAccountInput.account at h
  dsimp only at h
  split at h
  · cases h
  · obtain ⟨status, -, h⟩ := except_bind_ok.mp h
    cases h
    exact ⟨rfl, rfl⟩

theorem toOption_eq_some {P : Type} {read : Except DesktopError P} {account : P} :
    read.toOption = some account ↔ read = .ok account := by
  cases read with
  | error e => simp [Except.toOption]
  | ok a => simp [Except.toOption]

theorem saved_save {input : SaveAccountInput} {x : SavedAccount} :
    (AccountCall.save input).saved = some x ↔ ∃ account, input.account = .ok account ∧
      .video account = x := by
  simp only [AccountCall.saved, Option.map_eq_some_iff, toOption_eq_some]

theorem saved_saveArticle {input : SaveArticleAccountInput} {x : SavedAccount} :
    (AccountCall.saveArticle input).saved = some x ↔ ∃ account, input.account = .ok account ∧
      .article account = x := by
  simp only [AccountCall.saved, Option.map_eq_some_iff, toOption_eq_some]

/-- The account a call describes has the key of the call, and the slot of the key. -/
theorem saved_key {call : AccountCall} {x : SavedAccount} (h : call.saved = some x) :
    call.key = some x.key ∧ x.slot = slotOf x.key := by
  cases call with
  | save input =>
    obtain ⟨account, haccount, rfl⟩ := saved_save.mp h
    obtain ⟨hplatform, hname, hid⟩ := SaveAccountInput.account_ok haccount
    refine ⟨?_, ?_⟩
    · simp only [AccountCall.key, hplatform, SavedAccount.key, hname]
      rfl
    · simp only [SavedAccount.slot, SavedAccount.key, slotOf, hid]
  | saveArticle input =>
    obtain ⟨account, haccount, rfl⟩ := saved_saveArticle.mp h
    obtain ⟨hname, hid⟩ := SaveArticleAccountInput.account_ok haccount
    refine ⟨?_, ?_⟩
    · simp only [AccountCall.key, SavedAccount.key, hname]
    · simp only [SavedAccount.slot, SavedAccount.key, slotOf, hid]

/-- What a call with this key describes. -/
theorem saved_of_key {call : AccountCall} {k : AccountPlatform × String} {x : SavedAccount}
    (hk : call.key = some k) (hx : call.saved = some x) : x.key = k ∧ x.slot = slotOf k := by
  obtain ⟨hkey, hslot⟩ := saved_key hx
  rw [hkey] at hk
  cases hk
  exact ⟨rfl, hslot⟩

/-- The table holds a row that reads as the account. -/
def Holds {P : Type} (platformFromDb : String → Except DomainError P) (t : Table AccountRow.id)
    (account : AccountOf P) : Prop :=
  ∃ row ∈ t.rows, row.read platformFromDb = .ok account

/-- The account is in its table, with its own display name, platform, status, phone and
    partition. -/
def AccountStore.Present (s : AccountStore) : SavedAccount → Prop
  | .video account => Holds Platform.fromStr s.accounts account
  | .article account => Holds articlePlatformFromDb s.articleAccounts account

theorem fromStr_asStr (platform : Platform) : Platform.fromStr platform.asStr = .ok platform := by
  cases platform <;> decide +kernel

theorem mem_upsertAccount {t : Table AccountRow.id} {row r : AccountRow} :
    r ∈ (upsertAccount t row).rows ↔ r = row ∨ r ∈ t.rows ∧ r.id ≠ row.id := by
  have hmem : ∀ t : Table AccountRow.id, r ∈ t.rows ↔ t.find? r.id = some r := by
    intro t
    rw [Table.find?_eq_some, and_iff_left rfl]
  unfold upsertAccount
  rw [hmem, hmem, Table.find?_upsert]
  by_cases hid : row.id = r.id
  · have hrow : (t.find? row.id).elim row (fun old => { row with id := old.id }) = row := by
      cases hold : t.find? row.id with
      | none => rfl
      | some old =>
        have hkey := Table.find?_key hold
        rw [Option.elim_some, hkey]
    rw [if_pos hid, ← hid, hrow, Option.some.injEq]
    simp [eq_comm]
  · rw [if_neg hid]
    have hne : r ≠ row := fun he => hid (he ▸ rfl)
    simp [hne, Ne.symm hid]

theorem AccountRow.read_id {P : Type} {platformFromDb : String → Except DomainError P}
    {row : AccountRow} {account : AccountOf P} (h : row.read platformFromDb = .ok account) :
    account.id = row.id := by
  obtain ⟨platform, -, h⟩ := except_bind_ok.mp h
  obtain ⟨status, -, h⟩ := except_bind_ok.mp h
  cases h
  rfl

/-- What the table holds after an account was upserted. -/
theorem holds_upsertAccount {P : Type} {platformDb : P → String}
    {platformFromDb : String → Except DomainError P}
    (hdb : ∀ platform, platformFromDb (platformDb platform) = .ok platform)
    (t : Table AccountRow.id) (account other : AccountOf P) :
    Holds platformFromDb (upsertAccount t (account.toRow platformDb)) other ↔
      if other.id = account.id then other = account else Holds platformFromDb t other := by
  have hread := read_toRow hdb account
  by_cases hid : other.id = account.id
  · rw [if_pos hid]
    constructor
    · intro h
      obtain ⟨row, hrow, hother⟩ := h
      rcases mem_upsertAccount.mp hrow with rfl | hold
      · rw [hread] at hother
        exact (Except.ok.inj hother).symm
      · exact absurd ((AccountRow.read_id hother).symm.trans hid) hold.2
    · intro h
      subst h
      exact ⟨_, mem_upsertAccount.mpr (Or.inl rfl), hread⟩
  · rw [if_neg hid]
    constructor
    · intro h
      obtain ⟨row, hrow, hother⟩ := h
      rcases mem_upsertAccount.mp hrow with rfl | hold
      · rw [hread] at hother
        exact absurd (congrArg AccountOf.id (Except.ok.inj hother).symm) hid
      · exact ⟨row, hold.1, hother⟩
    · intro h
      obtain ⟨row, hrow, hother⟩ := h
      refine ⟨row, mem_upsertAccount.mpr (Or.inr ⟨hrow, ?_⟩), hother⟩
      intro he
      exact hid ((AccountRow.read_id hother).trans he)

/-- A successful call upserts the account it describes. -/
theorem saves_cases {s s' : AccountStore} {call : AccountCall} (h : Saves s call s') :
    (∃ account, call.saved = some (.video account) ∧
      s' = { s with accounts := upsertAccount s.accounts (account.toRow Platform.asStr) }) ∨
    (∃ account, call.saved = some (.article account) ∧
      s' = { s with articleAccounts :=
        upsertAccount s.articleAccounts (account.toRow articlePlatformDb) }) := by
  obtain ⟨id, h⟩ := h
  cases call with
  | save input =>
    obtain ⟨account, haccount, h⟩ := except_bind_ok.mp h
    obtain ⟨s₁, hs₁, h⟩ := except_bind_ok.mp h
    obtain ⟨-, -, hs₁⟩ := except_bind_ok.mp hs₁
    cases h
    cases hs₁
    exact Or.inl ⟨account, saved_save.mpr ⟨account, haccount, rfl⟩, rfl⟩
  | saveArticle input =>
    obtain ⟨account, haccount, h⟩ := except_bind_ok.mp h
    obtain ⟨s₁, hs₁, h⟩ := except_bind_ok.mp h
    obtain ⟨-, -, hs₁⟩ := except_bind_ok.mp hs₁
    cases h
    cases hs₁
    exact Or.inr ⟨account, saved_saveArticle.mpr ⟨account, haccount, rfl⟩, rfl⟩

/-- **What is present after a call**: in the slot it writes the account it describes and nothing
    else, in every other slot what was there. -/
theorem present_saves {s s' : AccountStore} {call : AccountCall} {y : SavedAccount}
    (h : Saves s call s') (hy : call.saved = some y) (x : SavedAccount) :
    s'.Present x ↔ if x.slot = y.slot then x = y else s.Present x := by
  obtain ⟨account, hsaved, rfl⟩ | ⟨account, hsaved, rfl⟩ := saves_cases h
  · rw [hsaved] at hy
    cases hy
    cases x with
    | video other =>
      simpa [AccountStore.Present, SavedAccount.slot] using
        holds_upsertAccount fromStr_asStr s.accounts account other
    | article other => simp [AccountStore.Present, SavedAccount.slot]
  · rw [hsaved] at hy
    cases hy
    cases x with
    | video other => simp [AccountStore.Present, SavedAccount.slot]
    | article other =>
      simpa [AccountStore.Present, SavedAccount.slot] using
        holds_upsertAccount articlePlatformFromDb_db s.articleAccounts account other

/-! ## 6. Runs -/

/-- What the calls saved last under one platform and name. -/
def LastSaved (calls : List AccountCall) (x : SavedAccount) : Prop :=
  ∃ before call after, calls = before ++ call :: after ∧ call.saved = some x ∧
    ∀ c ∈ after, c.key ≠ call.key

/-- Every call whose platform and trimmed display name no earlier call had leaves each account
    saved before it present. -/
def KeepsAccounts (s₀ : AccountStore) (calls : List AccountCall) : Prop :=
  ∀ before call after s₁ s₂, calls = before ++ call :: after → Trace Saves s₀ before s₁ →
    Saves s₁ call s₂ → (∀ c ∈ before, c.key ≠ call.key) → ∀ x, LastSaved before x → s₂.Present x

/-- `account_id` and `article_account_id` are injective on what the calls were given. -/
def IdsInjective (calls : List AccountCall) : Prop :=
  ∀ c ∈ calls, ∀ c' ∈ calls, ∀ x y, c.saved = some x → c'.saved = some y → x.slot = y.slot →
    x.key = y.key

/-- No two names given for one platform are confusable, unless they are one. -/
def Distinguishable (calls : List AccountCall) : Prop :=
  ∀ c ∈ calls, ∀ c' ∈ calls, ∀ p name name', c.key = some (p, name) → c'.key = some (p, name') →
    Confusable name name' → name = name'

variable {s₀ s : AccountStore} {calls : List AccountCall}

/-- The same, said of the identifiers. -/
theorem distinguishable_iff : Distinguishable calls ↔
    ∀ c ∈ calls, ∀ c' ∈ calls, ∀ k k', c.key = some k → c'.key = some k' →
      slotOf k = slotOf k' → k = k' := by
  constructor
  · intro h c hc c' hc' k k' hk hk' hslot
    obtain ⟨p, name⟩ := k
    obtain ⟨p', name'⟩ := k'
    obtain ⟨hp, hname⟩ := slotOf_eq_iff.mp hslot
    dsimp only at hp hname
    subst hp
    rw [h c hc c' hc' p name name' hk hk' hname]
  · intro h c hc c' hc' p name name' hk hk' hname
    have heq := h c hc c' hc' _ _ hk hk' (slotOf_eq_iff.mpr ⟨rfl, hname⟩)
    exact congrArg Prod.snd heq

theorem saved_of_saves {s' : AccountStore} {call : AccountCall} (h : Saves s call s') :
    ∃ x, call.saved = some x := by
  obtain ⟨account, hsaved, -⟩ | ⟨account, hsaved, -⟩ := saves_cases h
  · exact ⟨_, hsaved⟩
  · exact ⟨_, hsaved⟩

/-- Every call of a run describes an account. -/
theorem saved_of_run (h : Trace Saves s₀ calls s) :
    ∀ call ∈ calls, ∃ x, call.saved = some x := by
  intro call hcall
  obtain ⟨before, after, rfl⟩ := List.append_of_mem hcall
  obtain ⟨s₁, s₂, -, hsaves, -⟩ := h.at_event
  exact saved_of_saves hsaves

/-- An account stays present while no call writes its slot. -/
theorem present_run {x : SavedAccount} (h : Trace Saves s₀ calls s) (hx : s₀.Present x)
    (hslot : ∀ c ∈ calls, ∀ y, c.saved = some y → x.slot ≠ y.slot) : s.Present x := by
  refine h.invariant_on (I := fun s => s.Present x)
    (P := fun c => ∀ y, c.saved = some y → x.slot ≠ y.slot) hslot hx ?_
  intro s₁ c s₂ hc hpresent hsaves
  obtain ⟨y, hy⟩ := saved_of_saves hsaves
  rw [present_saves hsaves hy, if_neg (hc y hy)]
  exact hpresent

/-- Among the calls that have a key there is a last one. -/
theorem exists_lastSaved {c : AccountCall} {x : SavedAccount}
    (hsaved : ∀ c ∈ calls, ∃ x, c.saved = some x) (hc : c ∈ calls) (hx : c.saved = some x) :
    ∃ y, LastSaved calls y ∧ y.key = x.key := by
  induction calls using List.reverseRecOn with
  | nil => cases hc
  | append_singleton rest d ih =>
    obtain ⟨y, hy⟩ := hsaved d (List.mem_append_right rest List.mem_cons_self)
    by_cases hd : y.key = x.key
    · exact ⟨y, ⟨rest, d, [], rfl, hy, fun c hc => absurd hc List.not_mem_nil⟩, hd⟩
    · have hrest : c ∈ rest := by
        rcases List.mem_append.mp hc with h | h
        · exact h
        · rw [List.mem_singleton.mp h, hy] at hx
          exact absurd (congrArg SavedAccount.key (Option.some.inj hx)) hd
      obtain ⟨z, hz, hkey⟩ :=
        ih (fun c hc => hsaved c (List.mem_append_left [d] hc)) hrest
      obtain ⟨before, call, after, rfl, hcall, hafter⟩ := hz
      refine ⟨z, ⟨before, call, after ++ [d], by simp, hcall, ?_⟩, hkey⟩
      intro c' hc'
      rcases List.mem_append.mp hc' with h | h
      · exact hafter c' h
      · rw [List.mem_singleton.mp h, (saved_key hy).1, (saved_key hcall).1, hkey]
        exact fun he => hd (Option.some.inj he)

/-- Names that no slug mixes up keep every account. -/
theorem keeps_of_distinguishable (h : Distinguishable calls) : KeepsAccounts s₀ calls := by
  intro before call after s₁ s₂ hcalls hbefore hsaves hfresh x hlast
  obtain ⟨es, c, es', rfl, hx, hes'⟩ := hlast
  obtain ⟨sc, sc', -, hc, hrest⟩ := hbefore.at_event
  have hpresent : sc'.Present x := by
    rw [present_saves hc hx, if_pos rfl]
  refine present_run (hrest.snoc hsaves) hpresent ?_
  intro d hd y hy hslot
  have hmem : c ∈ es ++ c :: es' := by simp
  have hmemc : c ∈ calls := by rw [hcalls]; simp
  have hmemd : d ∈ calls := by
    rw [hcalls]
    rcases List.mem_append.mp hd with h | h
    · simp [h]
    · simp [List.mem_singleton.mp h]
  obtain ⟨hxkey, hxslot⟩ := saved_key hx
  obtain ⟨hykey, hyslot⟩ := saved_key hy
  rw [hxslot, hyslot] at hslot
  have hkey := distinguishable_iff.mp h c hmemc d hmemd _ _ hxkey hykey hslot
  have hsame : d.key = c.key := by rw [hykey, hxkey, hkey]
  rcases List.mem_append.mp hd with hd | hd
  · exact hes' d hd hsame
  · rw [List.mem_singleton.mp hd] at hsame
    exact hfresh c hmem hsame.symm

/-- A call that shares a slot with an earlier one has its key, if the run so far mixes nothing up
    and the call leaves what was saved. -/
theorem key_eq_of_slot_eq {s₁ s₂ : AccountStore} {call c : AccountCall} {x y : SavedAccount}
    (h : Trace Saves s₀ calls s₁) (hdist : Distinguishable calls) (hsaves : Saves s₁ call s₂)
    (hkeep : (∀ c ∈ calls, c.key ≠ call.key) → ∀ x, LastSaved calls x → s₂.Present x)
    (hc : c ∈ calls) (hx : c.saved = some x) (hy : call.saved = some y)
    (hslot : x.slot = y.slot) : x.key = y.key := by
  by_contra hne
  obtain ⟨hxkey, hxslot⟩ := saved_key hx
  obtain ⟨hykey, hyslot⟩ := saved_key hy
  rw [hxslot, hyslot] at hslot
  -- an earlier call with the key of this one would collide with `c` already
  have hfresh : ∀ d ∈ calls, d.key ≠ call.key := by
    intro d hd he
    rw [hykey] at he
    exact hne (distinguishable_iff.mp hdist c hc d hd _ _ hxkey he hslot)
  obtain ⟨z, hz, hzkey⟩ := exists_lastSaved (saved_of_run h) hc hx
  have hpresent := hkeep hfresh z hz
  obtain ⟨before, d, after, -, hd, -⟩ := hz
  have hzslot : z.slot = y.slot := by rw [(saved_key hd).2, hyslot, hzkey, hslot]
  rw [present_saves hsaves hy, if_pos hzslot] at hpresent
  exact hne (by rw [← hzkey, hpresent])

/-- A run that keeps every account mixes no names up. -/
theorem distinguishable_of_keeps (h : Trace Saves s₀ calls s) (hkeeps : KeepsAccounts s₀ calls) :
    Distinguishable calls := by
  induction calls using List.reverseRecOn generalizing s with
  | nil => exact fun c hc => absurd hc List.not_mem_nil
  | append_singleton before call ih =>
    obtain ⟨s₁, hbefore, hlast⟩ := h.split
    cases hlast with
    | cons hsaves _ =>
      have hdist : Distinguishable before := by
        refine ih hbefore ?_
        intro es c es' s₁ s₂ he
        exact hkeeps es c (es' ++ [call]) s₁ s₂ (by simp [he])
      have hkeep := hkeeps before call [] _ _ rfl hbefore hsaves
      have hpair : ∀ c ∈ before, ∀ k k', c.key = some k → call.key = some k' →
          slotOf k = slotOf k' → k = k' := by
        intro c hc k k' hk hk' hslot
        obtain ⟨x, hx⟩ := saved_of_run hbefore c hc
        obtain ⟨y, hy⟩ := saved_of_saves hsaves
        obtain ⟨rfl, hxslot⟩ := saved_of_key hk hx
        obtain ⟨rfl, hyslot⟩ := saved_of_key hk' hy
        rw [← hxslot, ← hyslot] at hslot
        exact key_eq_of_slot_eq hbefore hdist hsaves hkeep hc hx hy hslot
      rw [distinguishable_iff]
      intro c hc c' hc' k k' hk hk' hslot
      rcases List.mem_append.mp hc with hc | hc <;> rcases List.mem_append.mp hc' with hc' | hc'
      · exact distinguishable_iff.mp hdist c hc c' hc' k k' hk hk' hslot
      · rw [List.mem_singleton.mp hc'] at hk'
        exact hpair c hc k k' hk hk' hslot
      · rw [List.mem_singleton.mp hc] at hk
        exact (hpair c' hc' k' k hk' hk hslot.symm).symm
      · rw [List.mem_singleton.mp hc] at hk
        rw [List.mem_singleton.mp hc', hk] at hk'
        exact Option.some.inj hk'

/-- **Accounts are kept exactly by names that no slug mixes up.** In a run of successful calls from
    any store, every call under a new platform and name leaves the accounts saved before it
    present, and the identifiers are injective, exactly if no two names given for one platform
    agree up to ASCII case and up to what characters besides ASCII letters and digits they have. -/
theorem accounts_kept_iff (h : Trace Saves s₀ calls s) :
    (KeepsAccounts s₀ calls ↔ Distinguishable calls) ∧
      (IdsInjective calls ↔ Distinguishable calls) := by
  refine ⟨⟨distinguishable_of_keeps h, keeps_of_distinguishable⟩, ?_⟩
  rw [distinguishable_iff]
  constructor
  · intro hinj c hc c' hc' k k' hk hk' hslot
    obtain ⟨x, hx⟩ := saved_of_run h c hc
    obtain ⟨y, hy⟩ := saved_of_run h c' hc'
    obtain ⟨rfl, hxslot⟩ := saved_of_key hk hx
    obtain ⟨rfl, hyslot⟩ := saved_of_key hk' hy
    exact hinj c hc c' hc' x y hx hy (by rw [hxslot, hyslot, hslot])
  · intro hdist c hc c' hc' x y hx hy hslot
    obtain ⟨hxkey, hxslot⟩ := saved_key hx
    obtain ⟨hykey, hyslot⟩ := saved_key hy
    rw [hxslot, hyslot] at hslot
    exact hdist c hc c' hc' _ _ hxkey hykey hslot

theorem saves_save {input : SaveAccountInput} {account : Account}
    (haccount : input.account = .ok account)
    (hroute : validateAccountRoute account.phone account.partition = .ok ()) (s : AccountStore) :
    Saves s (.save input)
      { s with accounts := upsertAccount s.accounts (account.toRow Platform.asStr) } := by
  refine ⟨account.id, except_bind_ok.mpr ⟨account, haccount, except_bind_ok.mpr ⟨_, ?_, rfl⟩⟩⟩
  exact except_bind_ok.mpr ⟨(), hroute, rfl⟩

/-- A Douyin account of a name, for the samples below. -/
def sampleInput (displayName : String) : SaveAccountInput where
  platform := "抖音"
  displayName := displayName
  status := "logged_in"
  phone := "13800000000"
  partition := "persist:main"

def sampleAccount (displayName : String) : Account where
  id := accountId .douyin displayName
  platform := .douyin
  displayName := displayName
  status := .loggedIn
  phone := "13800000000"
  partition := "persist:main"

/-- The store after a sample was saved. -/
def AccountStore.withSample (s : AccountStore) (displayName : String) : AccountStore :=
  { s with
    accounts := upsertAccount s.accounts ((sampleAccount displayName).toRow Platform.asStr) }

theorem sample_run (s : AccountStore) {first second : String}
    (hfirst : (sampleInput first).account = .ok (sampleAccount first))
    (hsecond : (sampleInput second).account = .ok (sampleAccount second)) :
    Trace Saves s [.save (sampleInput first), .save (sampleInput second)]
      ((s.withSample first).withSample second) := by
  have hroute : validateAccountRoute "13800000000" "persist:main" = .ok () := by decide +kernel
  exact .cons (saves_save hfirst hroute s) (.single (saves_save hsecond hroute _))

/-- Two names that differ in their letters. -/
theorem distinguishable_sample :
    Distinguishable [.save (sampleInput "Zhang San"), .save (sampleInput "Li Si")] := by
  have hkeys : ∀ c ∈ [AccountCall.save (sampleInput "Zhang San"), .save (sampleInput "Li Si")],
      c.key = some (.video .douyin, "Zhang San") ∨ c.key = some (.video .douyin, "Li Si") := by
    decide +kernel
  have hslots : slotOf (.video .douyin, "Zhang San") ≠ slotOf (.video .douyin, "Li Si") := by
    decide +kernel
  refine distinguishable_iff.mpr fun c hc c' hc' k k' hk hk' hslot => ?_
  obtain hfirst | hfirst := hkeys c hc <;> obtain hsecond | hsecond := hkeys c' hc' <;>
    cases hfirst.symm.trans hk <;> cases hsecond.symm.trans hk'
  · rfl
  · exact absurd hslot hslots
  · exact absurd hslot.symm hslots
  · rfl

theorem accounts_kept_iff_sample :
    KeepsAccounts ⟨.empty, .empty⟩
        [.save (sampleInput "Zhang San"), .save (sampleInput "Li Si")] ∧
      IdsInjective [.save (sampleInput "Zhang San"), .save (sampleInput "Li Si")] := by
  obtain ⟨hfirst, hsecond⟩ : (sampleInput "Zhang San").account = .ok (sampleAccount "Zhang San") ∧
      (sampleInput "Li Si").account = .ok (sampleAccount "Li Si") := by decide +kernel
  obtain ⟨hkeeps, hids⟩ := accounts_kept_iff (sample_run ⟨.empty, .empty⟩ hfirst hsecond)
  exact ⟨hkeeps.mpr distinguishable_sample, hids.mpr distinguishable_sample⟩

/-- **Names without ASCII letters or digits overwrite each other**: 李四 takes the place of 张三. -/
theorem not_keepsAccounts_names :
    (∃ s, Trace Saves ⟨.empty, .empty⟩
      [.save (sampleInput "张三"), .save (sampleInput "李四")] s) ∧
    ¬ KeepsAccounts ⟨.empty, .empty⟩
      [.save (sampleInput "张三"), .save (sampleInput "李四")] ∧
    ¬ IdsInjective [.save (sampleInput "张三"), .save (sampleInput "李四")] := by
  have hfirst : (sampleInput "张三").account = .ok (sampleAccount "张三") := by decide +kernel
  have hsecond : (sampleInput "李四").account = .ok (sampleAccount "李四") := by decide +kernel
  have hrun := sample_run ⟨.empty, .empty⟩ hfirst hsecond
  have hconfusable : Confusable "张三" "李四" := accountSlug_eq_iff.mp (by decide +kernel)
  refine ⟨⟨_, hrun⟩, ?_, ?_⟩
  · intro hkeeps
    have hdist := distinguishable_of_keeps hrun hkeeps
    have hname := hdist _ List.mem_cons_self _ (List.mem_cons_of_mem _ List.mem_cons_self)
      (.video .douyin) "张三" "李四" (by decide +kernel) (by decide +kernel) hconfusable
    exact absurd hname (by decide)
  · intro hinj
    have hkey := hinj _ List.mem_cons_self _ (List.mem_cons_of_mem _ List.mem_cons_self)
      (.video (sampleAccount "张三")) (.video (sampleAccount "李四"))
      (saved_save.mpr ⟨_, hfirst, rfl⟩) (saved_save.mpr ⟨_, hsecond, rfl⟩) (by decide +kernel)
    exact absurd hkey (by decide)

end Desktop

end MatriXpost
