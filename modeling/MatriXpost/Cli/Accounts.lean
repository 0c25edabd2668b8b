/-
  File:      MatriXpost/Cli/Accounts.lean
  Subject:   THE ACCOUNTS, LISTED: the CLI's `accounts`, each account with the readiness its
             browser shows, and the MCP server's `list_accounts`.

  Sources: `accounts_with_query_readiness` of `cli/src/runners.rs`, `list_accounts_result` of the
  MCP server, and `accounts` and `article_accounts` of `storage.rs`.

  * **`accounts_end_to_end`**: the CLI prints the accounts its filters select, in their order; each
    was probed once, through the network, by the runner of its platform, and is left out if a
    readiness flag asks for another state;
  * **`accounts_were_seen`**: every entry was found in a part of this run, so with `--logged-in` an
    account is listed only if the browser showed its upload form;
  * **`listings_agree_iff`**: the MCP server lists the accounts the CLI lists, except that it lists
    the video accounts too where it is asked for Juejin.
-/
import MatriXpost.Runner.ProbeEvidence
import MatriXpost.Desktop.Accounts
import MatriXpost.Lib.Select

namespace MatriXpost

open Json WebDriver Desktop

/-! ## 1. The stored accounts -/

/-- `SELECT … ORDER BY id`, every row read. -/
def accountsIn {P : Type} (platformFromDb : String → Except DomainError P)
    (t : Table AccountRow.id) : Except DomainError (List (AccountOf P)) :=
  (orderBy (fun _ => true) AccountRow.id t.rows).mapM fun row => row.read platformFromDb

/-- `accounts`. -/
def Desktop.AccountStore.videoAccounts (s : AccountStore) : Except DomainError (List Account) :=
  accountsIn Platform.fromStr s.accounts

/-- `article_accounts`. -/
def Desktop.AccountStore.juejinAccounts (s : AccountStore) :
    Except DomainError (List ArticleAccount) := accountsIn articlePlatformFromDb s.articleAccounts

/-- `serde_json::to_value(account)`. -/
def accountFields {P : Type} (platform : P → Json) (account : AccountOf P) :
    List (String × Json) :=
  [("id", .string account.id), ("platform", platform account.platform),
    ("display_name", .string account.displayName), ("status", .string account.status.db),
    ("phone", .string account.phone), ("partition", .string account.partition)]

def articlePlatformJson (platform : ArticlePlatform) : Json :=
  .string (articlePlatformDb platform)

/-! ## 2. The CLI -/

inductive AccountPlatformFilter where
  | video (platform : Platform)
  | juejin
deriving DecidableEq

structure AccountsArgs where
  platform : Option AccountPlatformFilter
  phone : Option String
  loggedIn : Bool
  loggedOut : Bool

namespace AccountsArgs

/-- The filters of an account's own data. -/
def selects (args : AccountsArgs) (account : Account) : Bool :=
  (args.platform.all fun platform => platform = .video account.platform) &&
    args.phone.all fun phone => account.phone = phone

/-- The filter of its readiness. -/
def shows (args : AccountsArgs) (readiness : AccountReadiness) : Bool :=
  (!args.loggedIn || readiness = .ready) && (!args.loggedOut || readiness = .notReady)

/-- The filters of an article account, which no runner is asked about. -/
def selectsArticle (args : AccountsArgs) (account : ArticleAccount) : Bool :=
  (args.platform.all fun platform => platform = .juejin) &&
    (args.phone.all fun phone => account.phone = phone) && (!args.loggedIn && !args.loggedOut)

end AccountsArgs

def accountWithReadiness (account : Account) (readiness : AccountReadiness) : Json :=
  .object (accountFields Platform.toJson account ++ [("readiness", .string readiness.tag)])

def articleAccountValue (account : ArticleAccount) : Json :=
  .object (accountFields articlePlatformJson account)

/-- The readiness of an account: the probe of the runner of its platform, if there is one. -/
def queryReadiness (runners : List ProviderRunner) (platform : Platform) :
    Client AccountReadiness :=
  match loginRunner runners platform with
  | none => pure .unavailable
  | some runner => do
    let result ← runner.accountReadinessWith.outcome
    pure ((result : Except DomainError AccountReadiness).toOption.getD .rejected)

/-- An account of the listing, if its readiness is asked for. -/
def queryAccount (runners : List ProviderRunner) (args : AccountsArgs) (account : Account) :
    Client (Option Json) := do
  let readiness ← queryReadiness runners account.platform
  pure (if args.shows readiness then some (accountWithReadiness account readiness) else none)

def accountsWithQueryReadiness (accounts : List Account) (articleAccounts : List ArticleAccount)
    (runners : List ProviderRunner) (args : AccountsArgs) : Client (List Json) := do
  let listed ← Talk.filterMap (queryAccount runners args) (accounts.filter args.selects)
  pure (listed ++ (articleAccounts.filter args.selectsArticle).map articleAccountValue)

/-- The accounts of the store, and the article accounts. -/
def Desktop.AccountStore.allAccounts (s : AccountStore) :
    Except DomainError (List Account × List ArticleAccount) := do
  let accounts ← s.videoAccounts
  let articleAccounts ← s.juejinAccounts
  .ok (accounts, articleAccounts)

/-- `Command::Accounts`, on a store that is open. -/
def accountsCommand (s : AccountStore) (runners : List ProviderRunner) (args : AccountsArgs) :
    Client (Emitted Json) :=
  match s.allAccounts with
  | .error e => pure (emit 4 .null (some e.text))
  | .ok (accounts, articleAccounts) => do
    let listed ← accountsWithQueryReadiness accounts articleAccounts runners args
    pure (emit 0 (.object [("accounts", .array listed)]) none)

/-! ## 3. The listing of a run -/

/-- The readiness an account is found in, and the dialogue it comes with. -/
def ReadinessFound (text : SocketAddr → String) (services : SocketAddr → AttachedService)
    (runners : List ProviderRunner) (platform : Platform) (es : HopLog) (o : AccountReadiness) :
    Prop :=
  match loginRunner runners platform with
  | none => es = [] ∧ o = .unavailable
  | some runner => Probed runner "/v1/account-status"
      (ProbeRequest.toJson ⟨accountStatusRunnerProtocolVersion, runner.platform⟩)
      (fun address => (services address).readinessReport text runner.platform)
      .unavailable .rejected es o

/-- The listing of accounts that were found so. -/
def listing (args : AccountsArgs) (accounts : List Account) (found : List AccountReadiness)
    (articleAccounts : List ArticleAccount) : List Json :=
  ((accounts.zip found).filter fun p => args.shows p.2).map (fun p => accountWithReadiness p.1 p.2)
    ++ (articleAccounts.filter args.selectsArticle).map articleAccountValue

/-- What the CLI prints of a store, and the dialogue it comes with. -/
inductive AccountsListed (text : SocketAddr → String) (services : SocketAddr → AttachedService)
    (s : AccountStore) (runners : List ProviderRunner) (args : AccountsArgs) :
    HopLog → Emitted Json → Prop
  | corrupt {e : DomainError} : s.allAccounts = .error e →
      AccountsListed text services s runners args [] (emit 4 .null (some e.text))
  | listed {accounts : List Account} {articleAccounts : List ArticleAccount}
      {found : List (HopLog × AccountReadiness)} :
      s.allAccounts = .ok (accounts, articleAccounts) →
      List.Forall₂ (fun account p =>
        ReadinessFound text services runners account.platform p.1 p.2)
        (accounts.filter args.selects) found →
      AccountsListed text services s runners args (found.map Prod.fst).flatten
        (emit 0 (.object [("accounts", .array (listing args (accounts.filter args.selects)
          (found.map Prod.snd) articleAccounts))]) none)

section Network
variable {bytes : Json → Nat} {text : SocketAddr → String}
  {others : Post → Browsing (Nat × ReplyBody)} {services : SocketAddr → AttachedService}
  {runners : List ProviderRunner} {args : AccountsArgs} {es : HopLog}

/-- A readiness is found, whatever the network does. -/
theorem queryReadiness_exact {platform : Platform} {r : Except DomainError AccountReadiness} :
    (Client.over (queryReadiness runners platform)
        (appAt bytes text others services)).Answers es r ↔
      ∃ o, r = .ok o ∧ ReadinessFound text services runners platform es o := by
  unfold queryReadiness ReadinessFound
  cases loginRunner runners platform with
  | none =>
    dsimp only
    rw [over_pure]
    exact ⟨fun h => ⟨_, h.2, h.1, rfl⟩, fun ⟨o, hr, he, ho⟩ => ⟨he, ho ▸ hr⟩⟩
  | some runner =>
    dsimp only
    rw [answers_of_outcome]
    constructor
    · intro h
      obtain ⟨result, hover, hr⟩ := h
      obtain ⟨o, rfl, hprobed⟩ := accountReadiness_exact.mp hover
      exact ⟨o, hr, hprobed⟩
    · intro h
      obtain ⟨o, hr, hprobed⟩ := h
      exact ⟨.ok o, accountReadiness_exact.mpr ⟨o, rfl, hprobed⟩, hr⟩

/-- An account with the readiness it was found in, if that is asked for. -/
def shownAccount (args : AccountsArgs) (account : Account) (o : AccountReadiness) : Option Json :=
  if args.shows o then some (accountWithReadiness account o) else none

theorem queryAccount_exact {account : Account} {r : Except DomainError (Option Json)} :
    (Client.over (queryAccount runners args account)
        (appAt bytes text others services)).Answers es r ↔
      ∃ o, r = .ok (shownAccount args account o) ∧
        ReadinessFound text services runners account.platform es o := by
  unfold queryAccount
  rw [over_map]
  constructor
  · intro h
    obtain ⟨r', hover, rfl⟩ := h
    obtain ⟨o, rfl, hfound⟩ := queryReadiness_exact.mp hover
    exact ⟨o, rfl, hfound⟩
  · intro h
    obtain ⟨o, rfl, hfound⟩ := h
    exact ⟨.ok o, queryReadiness_exact.mpr ⟨o, rfl, hfound⟩, rfl⟩

/-- The accounts that are shown, each with its dialogue. -/
theorem shown_iff {accounts : List Account} {listed : List Json} :
    (∃ shown : List (HopLog × Option Json),
      List.Forall₂ (fun account p => (Client.over (queryAccount runners args account)
        (appAt bytes text others services)).Answers p.1 (.ok p.2)) accounts shown ∧
        es = (shown.map Prod.fst).flatten ∧ listed = shown.filterMap Prod.snd) ↔
    ∃ found : List (HopLog × AccountReadiness),
      List.Forall₂ (fun account p =>
        ReadinessFound text services runners account.platform p.1 p.2) accounts found ∧
        es = (found.map Prod.fst).flatten ∧
        listed = ((accounts.zip (found.map Prod.snd)).filter fun p => args.shows p.2).map
          fun p => accountWithReadiness p.1 p.2 := by
  induction accounts generalizing es listed with
  | nil =>
    constructor
    · intro h
      obtain ⟨shown, hshown, rfl, rfl⟩ := h
      cases hshown
      exact ⟨[], .nil, rfl, rfl⟩
    · intro h
      obtain ⟨found, hfound, rfl, rfl⟩ := h
      cases hfound
      exact ⟨[], .nil, rfl, rfl⟩
  | cons account rest ih =>
    constructor
    · intro h
      obtain ⟨shown, hshown, rfl, rfl⟩ := h
      cases hshown with
      | @cons _ p _ shown hfirst hrest =>
        obtain ⟨o, hp, hfound⟩ := queryAccount_exact.mp hfirst
        obtain ⟨found, hothers, hes, hlisted⟩ := ih.mp ⟨shown, hrest, rfl, rfl⟩
        refine ⟨(p.1, o) :: found, .cons hfound hothers, ?_, ?_⟩
        · simp [hes]
        · have hshow := Except.ok.inj hp
          by_cases hasked : args.shows o = true
          · simp [shownAccount, hasked, hshow, hlisted]
          · simp [shownAccount, hasked, hshow, hlisted]
    · intro h
      obtain ⟨found, hfound, rfl, rfl⟩ := h
      cases hfound with
      | @cons _ p _ found hfirst hrest =>
        obtain ⟨shown, hothers, hes, hlisted⟩ := ih.mpr ⟨found, hrest, rfl, rfl⟩
        refine ⟨(p.1, shownAccount args account p.2) :: shown,
          .cons (queryAccount_exact.mpr ⟨p.2, rfl, hfirst⟩) hothers, ?_, ?_⟩
        · simp [hes]
        · by_cases hasked : args.shows p.2 = true
          · simp [shownAccount, hasked, hlisted]
          · simp [shownAccount, hasked, hlisted]

/-- The accounts of a listing, found one after the other. -/
theorem listed_exact {accounts : List Account} {r : Except DomainError (List Json)} :
    (Client.over (Talk.filterMap (queryAccount runners args) accounts)
        (appAt bytes text others services)).Answers es r ↔
      ∃ found : List (HopLog × AccountReadiness),
        List.Forall₂ (fun account p =>
          ReadinessFound text services runners account.platform p.1 p.2) accounts found ∧
          es = (found.map Prod.fst).flatten ∧
          r = .ok (((accounts.zip (found.map Prod.snd)).filter fun p => args.shows p.2).map
            fun p => accountWithReadiness p.1 p.2) := by
  rw [over_filterMap]
  constructor
  · intro h
    obtain ⟨listed, rfl⟩ := Talk.filterMap_answers_ok (fun account es r hone => by
      obtain ⟨o, ho, -⟩ := queryAccount_exact.mp hone
      exact ⟨_, ho⟩) h
    obtain ⟨found, hfound, hes, hlisted⟩ := shown_iff.mp (Talk.answers_filterMap.mp h)
    exact ⟨found, hfound, hes, congrArg Except.ok hlisted⟩
  · intro h
    obtain ⟨found, hfound, hes, rfl⟩ := h
    exact Talk.answers_filterMap.mpr (shown_iff.mpr ⟨found, hfound, hes, rfl⟩)

/-- **The accounts, end to end.**  From the rows of the store, over any network, to what the CLI
    prints: the accounts its filters select, in the order of their identifiers; each probed once,
    by the runner of its platform, one after the other; each shown as it was found, or left out
    if a readiness flag asks for another state; then the article accounts, about which no runner
    is asked. -/
theorem accounts_end_to_end {s : AccountStore} {r : Except DomainError (Emitted Json)} :
    (Client.over (accountsCommand s runners args) (appAt bytes text others services)).Answers es r ↔
      ∃ answer, r = .ok answer ∧ AccountsListed text services s runners args es answer := by
  unfold accountsCommand
  cases hall : s.allAccounts with
  | error e =>
    dsimp only
    rw [over_pure]
    constructor
    · intro h
      obtain ⟨rfl, rfl⟩ := h
      exact ⟨_, rfl, .corrupt hall⟩
    · intro h
      obtain ⟨answer, rfl, hlisted⟩ := h
      cases hlisted with
      | corrupt he =>
        cases hall.symm.trans he
        exact ⟨rfl, rfl⟩
      | listed hok _ => cases hall.symm.trans hok
  | ok all =>
    obtain ⟨accounts, articleAccounts⟩ := all
    dsimp only [accountsWithQueryReadiness]
    rw [over_map]
    constructor
    · intro h
      obtain ⟨r', hlist, rfl⟩ := h
      obtain ⟨r'', hlisted, rfl⟩ := over_map.mp hlist
      obtain ⟨found, hfound, rfl, rfl⟩ := listed_exact.mp hlisted
      exact ⟨_, rfl, .listed hall hfound⟩
    · intro h
      obtain ⟨answer, rfl, hlisted⟩ := h
      cases hlisted with
      | corrupt he => cases hall.symm.trans he
      | listed hok hfound =>
        cases hall.symm.trans hok
        exact ⟨_, over_map.mpr ⟨_, listed_exact.mpr ⟨_, hfound, rfl, rfl⟩, rfl⟩, rfl⟩

/-! What a listing is worth. -/

/-- The runner an account is asked about at was given the flag of the probe. -/
def AccountPermitted (runnerArgs : SocketAddr → RunnerArgs) (runners : List ProviderRunner)
    (account : Account) : Prop :=
  ∃ runner, loginRunner runners account.platform = some runner ∧
    (Probe.readiness runner).Permitted runnerArgs

/-- The readiness of an account that was found was seen. -/
theorem readinessFound_seen {parse : String → Option EndpointUrl}
    {runnerArgs : SocketAddr → RunnerArgs}
    (hstart : ∀ address, startRunner parse (runnerArgs address) = .ok (services address))
    {account : Account} {o : AccountReadiness}
    (h : ReadinessFound text services runners account.platform es o) :
    (Finding.readiness account.platform o).SeenIn es ∧
      OnlyLooks (pagesOf es) (AccountPermitted runnerArgs runners account) := by
  unfold ReadinessFound at h
  cases hrunner : loginRunner runners account.platform with
  | none =>
    rw [hrunner] at h
    obtain ⟨rfl, rfl⟩ := h
    exact ⟨.inl rfl, onlyLooks_nil _⟩
  | some runner =>
    rw [hrunner] at h
    have hplatform : runner.platform = account.platform := by simpa using List.find?_some hrunner
    obtain ⟨hseen, hlooks⟩ := readiness_seen hstart h
    rw [← hplatform]
    exact ⟨hseen, hlooks.look, fun hne => ⟨runner, hrunner, hlooks.permitted hne⟩⟩

/-- The account of a pair, the readiness it was found in, and where in the dialogue. -/
theorem found_of_mem {accounts : List Account} {found : List (HopLog × AccountReadiness)}
    (h : List.Forall₂ (fun account p =>
      ReadinessFound text services runners account.platform p.1 p.2) accounts found)
    {p : Account × AccountReadiness} (hp : p ∈ accounts.zip (found.map Prod.snd)) :
    p.1 ∈ accounts ∧ ∃ before part after, (found.map Prod.fst).flatten = before ++ part ++ after ∧
      ReadinessFound text services runners p.1.platform part p.2 := by
  induction h with
  | nil => cases hp
  | @cons account q accounts found hfirst _ ih =>
    rw [List.map_cons, List.zip_cons_cons] at hp
    rcases List.mem_cons.mp hp with rfl | hp
    · exact ⟨List.mem_cons_self, [], q.1, (found.map Prod.fst).flatten, rfl, hfirst⟩
    · obtain ⟨hmem, before, part, after, hes, hpart⟩ := ih hp
      refine ⟨List.mem_cons_of_mem account hmem, q.1 ++ before, part, after, ?_, hpart⟩
      rw [List.map_cons, List.flatten_cons, hes]
      simp

/-- **What a listing shows was seen.**  The run has a part for every selected account, in which the
    browser is only asked to look, and not at all if the account's runner was not given the flag of
    the probe. Every entry is an article account, which is listed only where no readiness is asked
    for, or an account of the store in a readiness that is asked for and that the browser showed in
    a part of this run. -/
theorem accounts_were_seen {parse : String → Option EndpointUrl}
    {runnerArgs : SocketAddr → RunnerArgs}
    (hstart : ∀ address, startRunner parse (runnerArgs address) = .ok (services address))
    {accounts : List Account} {articleAccounts : List ArticleAccount} {listed : List Json}
    (h : (Client.over (accountsWithQueryReadiness accounts articleAccounts runners args)
      (appAt bytes text others services)).Answers es (.ok listed)) :
    (∃ parts : List HopLog, es = parts.flatten ∧
      List.Forall₂ (fun account part =>
        OnlyLooks (pagesOf part) (AccountPermitted runnerArgs runners account))
        (accounts.filter args.selects) parts) ∧
      ∀ entry ∈ listed,
        (∃ account ∈ articleAccounts, args.loggedIn = false ∧ args.loggedOut = false ∧
          entry = articleAccountValue account) ∨
        ∃ account ∈ accounts, ∃ o before part after, args.selects account = true ∧
          (args.loggedIn = true → o = .ready) ∧ (args.loggedOut = true → o = .notReady) ∧
          entry = accountWithReadiness account o ∧ es = before ++ part ++ after ∧
          (Finding.readiness account.platform o).SeenIn part := by
  unfold accountsWithQueryReadiness at h
  obtain ⟨r', hlist, hr⟩ := over_map.mp h
  obtain ⟨found, hfound, rfl, rfl⟩ := listed_exact.mp hlist
  cases hr
  refine ⟨⟨found.map Prod.fst, rfl, ?_⟩, fun entry hentry => ?_⟩
  · rw [List.forall₂_map_right_iff]
    exact hfound.imp fun _ _ hone => (readinessFound_seen hstart hone).2
  rcases List.mem_append.mp hentry with hvideo | harticle
  · obtain ⟨p, hp, rfl⟩ := List.mem_map.mp hvideo
    obtain ⟨hpair, hshows⟩ := List.mem_filter.mp hp
    obtain ⟨hmem, before, part, after, hes, hpart⟩ := found_of_mem hfound hpair
    obtain ⟨haccount, hselects⟩ := List.mem_filter.mp hmem
    refine .inr ⟨p.1, haccount, p.2, before, part, after, hselects, ?_, ?_, rfl, hes,
      (readinessFound_seen hstart hpart).1⟩
    · intro hflag
      simpa [AccountsArgs.shows, hflag] using (Bool.and_eq_true_iff.mp hshows).1
    · intro hflag
      simpa [AccountsArgs.shows, hflag] using (Bool.and_eq_true_iff.mp hshows).2
  · obtain ⟨account, hmem, rfl⟩ := List.mem_map.mp harticle
    obtain ⟨haccount, hselects⟩ := List.mem_filter.mp hmem
    have hflags := (Bool.and_eq_true_iff.mp hselects).2
    rw [Bool.and_eq_true_iff, Bool.not_eq_true', Bool.not_eq_true'] at hflags
    exact .inl ⟨account, haccount, hflags.1, hflags.2, rfl⟩

end Network

/-! ## 4. The MCP server -/

namespace Mcp

/-- `AccountsPlatform`. -/
inductive AccountsPlatform where
  | dy | ks | blbl | bjh | tt | sph | xhs | juejin | fqsp
deriving DecidableEq

def accountsVideoPlatform : AccountsPlatform → Option Platform
  | .dy => some .douyin
  | .ks => some .kuaishou
  | .blbl => some .bilibili
  | .bjh => some .baijiahao
  | .tt => some .toutiao
  | .sph => some .wechatChannels
  | .xhs => some .xiaohongshu
  | .fqsp => some .fanqieVideo
  | .juejin => none

structure ListedAccount where
  phone : String
  platform : String
  partition : String
deriving DecidableEq

def listedVideoAccount (account : Account) : ListedAccount :=
  ⟨account.phone, account.platform.asStr, account.partition⟩

def listedArticleAccount (account : ArticleAccount) : ListedAccount :=
  ⟨account.phone, "juejin", account.partition⟩

def listAccountsResult (s : AccountStore) (platform : Option AccountsPlatform) :
    Except String (List ListedAccount) := do
  let videoFilter := platform.bind accountsVideoPlatform
  let includeArticles := platform.all fun platform => platform = .juejin
  let accounts ← s.videoAccounts.mapError DomainError.text
  let listed := (accounts.filter fun account =>
    videoFilter.all fun platform => account.platform = platform).map listedVideoAccount
  if includeArticles then
    let articleAccounts ← s.juejinAccounts.mapError DomainError.text
    .ok (listed ++ articleAccounts.map listedArticleAccount)
  else .ok listed

/-- The filter of the CLI for the same platform. -/
def AccountsPlatform.filter (platform : AccountsPlatform) : AccountPlatformFilter :=
  match accountsVideoPlatform platform with
  | some platform => .video platform
  | none => .juejin

/-- The arguments of the CLI for the same listing. -/
def cliArgs (platform : Option AccountsPlatform) : AccountsArgs :=
  ⟨platform.map AccountsPlatform.filter, none, false, false⟩

/-- The accounts the CLI lists, as the MCP server shows them. -/
def cliListed (platform : Option AccountsPlatform) (accounts : List Account)
    (articleAccounts : List ArticleAccount) : List ListedAccount :=
  (accounts.filter (cliArgs platform).selects).map listedVideoAccount ++
    (articleAccounts.filter (cliArgs platform).selectsArticle).map listedArticleAccount

/-- What the MCP server shows of an entry the CLI prints. -/
def ofEntry (entry : Json) : Option ListedAccount := do
  let phone ← (entry.get "phone").bind Json.asStr
  let platform ← (entry.get "platform").bind Json.asStr
  let partition ← (entry.get "partition").bind Json.asStr
  some ⟨phone, platform, partition⟩

/-- The entries of the CLI for what `cliListed` lists. -/
def CliLists (platform : Option AccountsPlatform) (accounts : List Account)
    (articleAccounts : List ArticleAccount) (listed : List Json) : Prop :=
  listed.map ofEntry = (cliListed platform accounts articleAccounts).map some

section Listings
variable {s : AccountStore} {accounts : List Account} {articleAccounts : List ArticleAccount}

theorem ofEntry_account (account : Account) (o : AccountReadiness) :
    ofEntry (accountWithReadiness account o) = some (listedVideoAccount account) := rfl

theorem ofEntry_article (account : ArticleAccount) :
    ofEntry (articleAccountValue account) = some (listedArticleAccount account) := by
  obtain ⟨id, platform, displayName, status, phone, partition⟩ := account
  cases platform
  rfl

/-- **What the CLI lists**, whatever its probes find: the accounts of `cliListed`. -/
theorem cliLists_of_run {bytes : Json → Nat} {text : SocketAddr → String}
    {others : Post → Browsing (Nat × ReplyBody)} {services : SocketAddr → AttachedService}
    {runners : List ProviderRunner} {platform : Option AccountsPlatform} {es : HopLog}
    {listed : List Json}
    (h : (Client.over (accountsWithQueryReadiness accounts articleAccounts runners
      (cliArgs platform)) (appAt bytes text others services)).Answers es (.ok listed)) :
    CliLists platform accounts articleAccounts listed := by
  unfold accountsWithQueryReadiness at h
  obtain ⟨r', hlist, hr⟩ := over_map.mp h
  obtain ⟨found, hfound, rfl, rfl⟩ := listed_exact.mp hlist
  cases hr
  have hall : ∀ pairs : List (Account × AccountReadiness),
      pairs.filter (fun p => (cliArgs platform).shows p.2) = pairs :=
    fun pairs => List.filter_eq_self.mpr fun _ _ => rfl
  have hlength : (accounts.filter (cliArgs platform).selects).length ≤
      (found.map Prod.snd).length := by
    rw [List.length_map, hfound.length_eq]
  unfold CliLists cliListed
  rw [hall, List.map_append, List.map_append]
  refine congrArg₂ (· ++ ·) ?_ ?_
  · rw [List.map_map, List.map_map]
    have hfirst := List.map_fst_zip hlength
    calc ((accounts.filter (cliArgs platform).selects).zip (found.map Prod.snd)).map
          (ofEntry ∘ fun p => accountWithReadiness p.1 p.2)
        = (((accounts.filter (cliArgs platform).selects).zip (found.map Prod.snd)).map
            Prod.fst).map (some ∘ listedVideoAccount) := by
          rw [List.map_map]
          exact List.map_congr_left fun p _ => ofEntry_account p.1 p.2
      _ = (accounts.filter (cliArgs platform).selects).map (some ∘ listedVideoAccount) := by
          rw [hfirst]
  · rw [List.map_map, List.map_map]
    exact List.map_congr_left fun account _ => ofEntry_article account

/-- The tables a listing reads. -/
theorem listAccountsResult_of_read (h : s.allAccounts = .ok (accounts, articleAccounts))
    (platform : Option AccountsPlatform) : listAccountsResult s platform =
      .ok ((accounts.filter fun account => (platform.bind accountsVideoPlatform).all fun platform =>
          account.platform = platform).map listedVideoAccount ++
        if platform.all fun platform => platform = .juejin then
          articleAccounts.map listedArticleAccount
        else []) := by
  obtain ⟨videos, hvideos, hrest⟩ := except_bind_ok.mp h
  obtain ⟨articles, harticles, hend⟩ := except_bind_ok.mp hrest
  cases hend
  have hvideos' : s.videoAccounts.mapError DomainError.text = .ok accounts := by rw [hvideos]; rfl
  have harticles' : s.juejinAccounts.mapError DomainError.text = .ok articleAccounts := by
    rw [harticles]
    rfl
  refine except_bind_ok.mpr ⟨accounts, hvideos', ?_⟩
  by_cases hinclude : (platform.all fun platform => platform = .juejin) = true
  · simp only [if_pos hinclude]
    exact except_bind_ok.mpr ⟨articleAccounts, harticles', rfl⟩
  · simp only [if_neg hinclude, List.append_nil]

/-- The filter of a video platform selects its accounts, and no article account. -/
theorem cliListed_video {platform : AccountsPlatform} {video : Platform}
    (h : accountsVideoPlatform platform = some video) :
    cliListed (some platform) accounts articleAccounts =
      (accounts.filter fun account => account.platform = video).map listedVideoAccount := by
  have hvideos : (cliArgs (some platform)).selects =
      fun account : Account => account.platform = video := by
    funext account
    simp [cliArgs, AccountsArgs.selects, AccountsPlatform.filter, h, eq_comm]
  have harticles : articleAccounts.filter (cliArgs (some platform)).selectsArticle = [] := by
    refine List.filter_eq_nil_iff.mpr fun account _ => ?_
    simp [cliArgs, AccountsArgs.selectsArticle, AccountsPlatform.filter, h]
  rw [cliListed, hvideos, harticles, List.map_nil, List.append_nil]

/-- The filter of Juejin selects the article accounts only. -/
theorem cliListed_juejin : cliListed (some .juejin) accounts articleAccounts =
    articleAccounts.map listedArticleAccount := by
  have hvideos : accounts.filter (cliArgs (some .juejin)).selects = [] := by
    refine List.filter_eq_nil_iff.mpr fun account _ => ?_
    simp [cliArgs, AccountsArgs.selects, AccountsPlatform.filter, accountsVideoPlatform]
  have harticles : articleAccounts.filter (cliArgs (some .juejin)).selectsArticle =
      articleAccounts := by
    refine List.filter_eq_self.mpr fun account _ => ?_
    simp [cliArgs, AccountsArgs.selectsArticle, AccountsPlatform.filter, accountsVideoPlatform]
  rw [cliListed, hvideos, harticles, List.map_nil, List.nil_append]

/-- **The two listings agree, but for Juejin.**  From one store the MCP server lists exactly the
    accounts the CLI lists, for every platform and for none; asked for Juejin it lists the video
    accounts as well, so that the two agree only if there are none. -/
theorem listings_agree_iff (h : s.allAccounts = .ok (accounts, articleAccounts))
    (platform : Option AccountsPlatform) :
    (listAccountsResult s platform = .ok (cliListed platform accounts articleAccounts) ↔
      (platform = some .juejin → accounts = [])) ∧
    ∀ (bytes : Json → Nat) (text : SocketAddr → String) (others : Post → Browsing (Nat × ReplyBody))
      (services : SocketAddr → AttachedService) (runners : List ProviderRunner) (es : HopLog)
      (listed : List Json),
      (Client.over (accountsWithQueryReadiness accounts articleAccounts runners
        (cliArgs platform)) (appAt bytes text others services)).Answers es (.ok listed) →
      CliLists platform accounts articleAccounts listed := by
  refine ⟨?_, fun _ _ _ _ _ _ _ hrun => cliLists_of_run hrun⟩
  rw [listAccountsResult_of_read h]
  cases platform with
  | none =>
    have hvideos : accounts.filter (cliArgs none).selects = accounts :=
      List.filter_eq_self.mpr fun _ _ => rfl
    have harticles : articleAccounts.filter (cliArgs none).selectsArticle = articleAccounts :=
      List.filter_eq_self.mpr fun _ _ => rfl
    simp [cliListed, hvideos, harticles]
  | some platform =>
    cases hvideo : accountsVideoPlatform platform with
    | none =>
      have hjuejin : platform = .juejin := by
        cases platform <;> first | rfl | cases hvideo
      subst hjuejin
      simp [cliListed_juejin, accountsVideoPlatform]
    | some video =>
      have hother : platform ≠ .juejin := by
        rintro rfl
        cases hvideo
      rw [cliListed_video hvideo]
      simp [hvideo, hother]

end Listings

end Mcp

/-! ## 5. A store -/

/-- An account whose platform has a runner. -/
def sampleListed : Account := ⟨"dy-a", .douyin, "a", .loggedIn, "1", "persist:a"⟩

/-- A store with that account. -/
def sampleAccountStore : AccountStore :=
  ⟨⟨[sampleListed.toRow Platform.asStr], by decide⟩, Table.empty⟩

def sampleProbeRunners : List ProviderRunner := [⟨.douyin, .tcp (.v4 127 0 0 1 39001)⟩]

/-- A browser that shows the upload form. -/
def sampleReady : (hop : Hop) → Hop.Reply hop
  | .send _ => true
  | .page (.newSession _) => replyOf (.object [("sessionId", .string "s")])
  | .page (.findElement _ _) => replyOf (.object [(elementKey, .string "e")])
  | .page _ => replyOf .null
  | .receive _ => true

theorem accounts_were_seen_sample :
    ∃ es, (Client.over (accountsWithQueryReadiness [sampleListed] [] sampleProbeRunners
        ⟨none, none, true, false⟩) (appAt (fun _ => 0) (fun _ => "")
        (fun _ => pure (404, ⟨0, none⟩)) fun _ => sampleService)).Answers es
          (.ok [accountWithReadiness sampleListed .ready]) ∧
      ∃ before part after, es = before ++ part ++ after ∧
        (Finding.readiness .douyin .ready).ShownOn (pagesOf part) := by
  have hanswers := Talk.answers_run sampleReady (Client.over (accountsWithQueryReadiness
    [sampleListed] [] sampleProbeRunners ⟨none, none, true, false⟩)
    (appAt (fun _ => 0) (fun _ => "") (fun _ => pure (404, ⟨0, none⟩)) fun _ => sampleService))
  have hend : ((Client.over (accountsWithQueryReadiness [sampleListed] [] sampleProbeRunners
      ⟨none, none, true, false⟩) (appAt (fun _ => 0) (fun _ => "")
      (fun _ => pure (404, ⟨0, none⟩)) fun _ => sampleService)).run.run sampleReady).2 =
        .ok [accountWithReadiness sampleListed .ready] := rfl
  rw [hend] at hanswers
  obtain ⟨-, hseen⟩ := accounts_were_seen (fun _ => startRunner_sample) hanswers
  refine ⟨_, hanswers, ?_⟩
  rcases hseen _ List.mem_cons_self with ⟨_, hnone, -⟩ | hvideo
  · cases hnone
  obtain ⟨account, hmem, o, before, part, after, -, hready, -, -, hes, hpart⟩ := hvideo
  rw [List.mem_singleton.mp hmem, hready rfl] at hpart
  exact ⟨before, part, after, hes, hpart.resolve_right id⟩

theorem listings_agree_iff_sample :
    Mcp.listAccountsResult sampleAccountStore (some .juejin) ≠
      .ok (Mcp.cliListed (some .juejin) [sampleListed] []) := by
  have hall : sampleAccountStore.allAccounts = .ok ([sampleListed], []) := rfl
  intro h
  cases (Mcp.listings_agree_iff hall (some .juejin)).1.mp h rfl

end MatriXpost
