import AccountKeeper.Accounts.Document
import AccountKeeper.Proofs.Toml.Lines
import AccountKeeper.Proofs.Uuid

/-!
# Documents of accounts

A printed list of accounts is read back account by account.  Identifiers and
logins come back as they were; a server comes back as what its written form
stands for.  So the whole list comes back if all its servers do.
-/

set_option autoImplicit false

namespace AccountKeeper

/-- The written form of the address is read as the address. -/
def ServerAddress.Rereads (server : ServerAddress) : Prop :=
  parse server.display = .ok server

namespace Account

def texts (account : Account) : List (String × String) :=
  [("id", account.id.display), ("login", account.login), ("server", account.server.display)]

/-- The account that is read from the written form of an account. -/
def reread (account : Account) : Except Toml.Mismatch Account :=
  (ServerAddress.decoder (.scalar (.string account.server.display))).map fun server =>
    { account with server }

theorem reread_id (account found : Account) (rereads : account.reread = .ok found) :
    found.id = account.id := by
  unfold reread at rereads
  cases server : ServerAddress.decoder (.scalar (.string account.server.display)) with
  | error mismatch =>
    rw [server] at rereads
    cases rereads
  | ok server' =>
    rw [server] at rereads
    cases rereads
    rfl

theorem reread_of_rereads (account : Account) (rereads : account.server.Rereads) :
    account.reread = .ok account := by
  have decoded : ServerAddress.decoder (.scalar (.string account.server.display)) =
      .ok account.server := by
    have read : ServerAddress.read account.server.display = .ok account.server := by
      unfold ServerAddress.read
      rw [rereads]
      rfl
    simp only [ServerAddress.decoder, Toml.Decoder.parsed, Toml.Decoder.string, bind, Except.bind,
      read]
    rfl
  unfold reread
  rw [decoded]
  rfl

theorem take_id (draft : Draft) (id : AccountId) :
    draft.take "id" (.scalar (.string id.display)) = .ok { draft with id := some id } := by
  have read : AccountId.decoder (.scalar (.string id.display)) = .ok id := by
    unfold AccountId.decoder AccountId.display
    simp only [Uuid.parse_display]
  change (AccountId.decoder _ >>= _) = _
  rw [read]
  rfl

theorem take_login (draft : Draft) (login : String) :
    draft.take "login" (.scalar (.string login)) = .ok { draft with login := some login } := rfl

theorem take_server (draft : Draft) (item : Toml.Item) :
    draft.take "server" item =
      (ServerAddress.decoder item).map fun server => { draft with server := some server } := by
  change (ServerAddress.decoder item >>= _) = _
  cases ServerAddress.decoder item <;> rfl

theorem decoder_texts (account : Account) :
    decoder (.table .headed (Toml.Document.textItems account.texts)) = account.reread := by
  have taken : Toml.Decoder.takeFields Draft.take {} (Toml.Document.textItems account.texts) =
      account.reread.map fun found => ⟨some found.id, some found.login, some found.server⟩ := by
    have ok_bind : ∀ {α β : Type} (value : α) (next : α → Except Toml.Mismatch β),
        (Except.ok value >>= next) = next value := fun _ _ => rfl
    unfold Toml.Decoder.takeFields Toml.Document.textItems texts reread
    simp only [List.map_cons, List.map_nil, List.foldlM_cons, List.foldlM_nil, take_id,
      take_login, take_server, ok_bind]
    cases ServerAddress.decoder (.scalar (.string account.server.display)) <;> rfl
  change ((Toml.Decoder.takeFields _ _ _ >>= _) >>= _) = _
  rw [taken]
  cases account.reread <;> rfl

theorem sorted_toEntries (account : Account) :
    Toml.Entries.sorted account.toEntries = account.toEntries := by
  have login : "login" ≠ "id" ∧ ¬"login" < "id" := by decide +kernel
  have server : "server" ≠ "id" ∧ ¬"server" < "id" ∧ "server" ≠ "login" ∧ ¬"server" < "login" := by
    decide +kernel
  unfold Toml.Entries.sorted toEntries
  simp only [List.foldl_cons, List.foldl_nil, Toml.Entries.insert, login.1, login.2, server.1,
    server.2.1, server.2.2.1, server.2.2.2, if_false]

theorem toValue?_texts (account : Account) :
    (Toml.Item.table .headed (Toml.Document.textItems account.texts)).toValue? =
      some (.table account.toEntries) := by
  have plain : "id" ≠ Toml.Item.datetimeKey := by decide
  have sorted := account.sorted_toEntries
  unfold toEntries at sorted ⊢
  unfold texts Toml.Document.textItems
  simp only [List.map_cons, List.map_nil, Toml.Item.toValue?, Toml.Item.toEntries?, plain, if_false,
    sorted]

end Account

namespace AccountDocument

theorem print_eq (accounts : List Account) :
    print accounts =
      Toml.print [("accounts", Toml.Document.listedTables (accounts.map Account.texts))] := by
  unfold print Toml.Document.listedTables
  rw [List.map_map]
  rfl

theorem isBareKey_texts (account : Account) :
    ∀ entry ∈ account.texts, Toml.IsBareKey entry.1 := by
  have bare : ∀ key ∈ ["id", "login", "server"], Toml.IsBareKey key := by decide
  intro entry member
  exact bare entry.1 (List.mem_map_of_mem member)

theorem read_items (accounts : List Account) (nonempty : accounts ≠ []) :
    Toml.Document.read (print accounts) = some [("accounts", .tables (accounts.map fun account =>
      .table .headed (Toml.Document.textItems account.texts)))] := by
  rw [print_eq, Toml.Document.read_listed "accounts" (accounts.map Account.texts)]
  · rw [List.map_map]
    rfl
  · simpa using nonempty
  · exact ⟨by decide, List.all_eq_true.mp (by decide)⟩
  · intro texts member
    obtain ⟨account, _, rfl⟩ := List.mem_map.mp member
    exact isBareKey_texts account
  · intro texts member
    obtain ⟨account, _, rfl⟩ := List.mem_map.mp member
    simp [Account.texts]

theorem mapM_decoder (accounts : List Account) :
    (accounts.map fun account =>
      Toml.Item.table .headed (Toml.Document.textItems account.texts)).mapM Account.decoder =
        accounts.mapM Account.reread := by
  induction accounts with
  | nil => rfl
  | cons account accounts ih =>
    rw [List.map_cons, List.mapM_cons, List.mapM_cons, ih, Account.decoder_texts]

theorem decoder_tables (items : List Toml.Item) :
    decoder (.table .headed [("accounts", .tables items)]) = items.mapM Account.decoder := by
  unfold decoder Toml.Decoder.fields Toml.Decoder.takeFields
  simp only [List.foldlM_cons, List.foldlM_nil, if_true, Toml.Decoder.list]
  cases items.mapM Account.decoder <;> rfl

theorem read_print_nil : read (print []) = .ok [] := by
  have value : (read (print [])).toOption = some [] := by decide +kernel
  cases reads : read (print []) with
  | error fault => simp [reads, Except.toOption] at value
  | ok accounts => simpa [reads, Except.toOption] using value

theorem read_print (accounts : List Account) :
    read (print accounts) = (accounts.mapM Account.reread).mapError .mismatch := by
  by_cases nonempty : accounts = []
  · subst nonempty
    exact read_print_nil
  · unfold read Toml.Decoder.document
    rw [read_items accounts nonempty]
    simp only [decoder_tables, mapM_decoder]

theorem read_print_of_rereads (accounts : List Account)
    (rereads : ∀ account ∈ accounts, account.server.Rereads) :
    read (print accounts) = .ok accounts := by
  have reread : accounts.mapM Account.reread = .ok accounts := by
    induction accounts with
    | nil => rfl
    | cons account accounts ih =>
      have first := account.reread_of_rereads (rereads account List.mem_cons_self)
      have others := ih fun other member => rereads other (List.mem_cons_of_mem account member)
      rw [List.mapM_cons, first, others]
      rfl
  rw [read_print, reread]
  rfl

/-- Whatever becomes of the servers, a printed list is read back with the same identifiers. -/
theorem ids_of_read_print (accounts found : List Account)
    (reads : read (print accounts) = .ok found) :
    found.map (·.id) = accounts.map (·.id) := by
  have reread : accounts.mapM Account.reread = .ok found := by
    rw [read_print] at reads
    cases reread : accounts.mapM Account.reread with
    | error mismatch =>
      rw [reread] at reads
      cases reads
    | ok accounts' =>
      rw [reread] at reads
      cases reads
      rfl
  clear reads
  induction accounts generalizing found with
  | nil =>
    cases reread
    rfl
  | cons account accounts ih =>
    rw [List.mapM_cons] at reread
    cases first : account.reread with
    | error mismatch =>
      rw [first] at reread
      cases reread
    | ok account' =>
      rw [first] at reread
      cases others : accounts.mapM Account.reread with
      | error mismatch =>
        rw [others] at reread
        cases reread
      | ok accounts' =>
        rw [others] at reread
        cases reread
        rw [List.map_cons, List.map_cons, ih accounts' others, account.reread_id account' first]

end AccountDocument

end AccountKeeper
