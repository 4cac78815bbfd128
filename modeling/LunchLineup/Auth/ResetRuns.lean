import LunchLineup.Auth.SessionRuns

/-!
# Password resets over whole runs

A request for a reset spends the tokens before it, and a reset spends its own with all others,
so a user has one token at most that can still be used (`one_token_lives`), and of all resets
that succeed none uses a token that an earlier request or reset has superseded
(`superseded_token_refused`).  What replaces a user's credentials, or takes his sessions away,
ends every session that he had (`sessions_end_with_credentials`).
-/

namespace LunchLineup.Auth

open LunchLineup.Lib

/-- A row of a reset token and an earlier row of it. -/
structure PasswordResetToken.Descends (token earlier : PasswordResetToken) : Prop where
  id : token.id = earlier.id
  tenantId : token.tenantId = earlier.tenantId
  userId : token.userId = earlier.userId
  tokenHash : token.tokenHash = earlier.tokenHash
  consumed : earlier.consumedAt.isSome → token.consumedAt.isSome

theorem PasswordResetToken.Descends.refl (token : PasswordResetToken) : token.Descends token :=
  ⟨rfl, rfl, rfl, rfl, fun h => h⟩

instance : Std.Refl PasswordResetToken.Descends := ⟨PasswordResetToken.Descends.refl⟩

theorem PasswordResetToken.Descends.unspent {token earlier : PasswordResetToken}
    (h : token.Descends earlier) (htoken : token.consumedAt = none) : earlier.consumedAt = none := by
  by_contra hearlier
  have hconsumed := h.consumed (Option.isSome_iff_ne_none.mpr hearlier)
  rw [htoken] at hconsumed
  cases hconsumed

/-- The tokens descend from some of those before. -/
def AuthTables.TokensDescend (after before : AuthTables) : Prop :=
  List.SublistForall₂ PasswordResetToken.Descends after.passwordResetTokens
    before.passwordResetTokens

/-- The step spends the tokens of a user and makes one for him. -/
structure Requested (service : AuthService) (system : AuthSystem) (tenantId userId : String)
    (drawn : NewReset) (next : AuthSystem) (token : PasswordResetToken) : Prop where
  token_eq : token.id = drawn.tokenId ∧ token.tenantId = tenantId ∧ token.userId = userId ∧
    token.tokenHash = service.hashPasswordResetToken drawn.token
  tokens : ∃ now, next.tables.passwordResetTokens =
    (system.tables.consumeTokensOf tenantId userId now).passwordResetTokens ++ [token]
  drawnIds : next.drawnIds = system.drawnIds ++ [drawn.tokenId]
  new : ∀ other ∈ system.tables.passwordResetTokens, other.tokenHash ≠ token.tokenHash

/-- The tokens descend from those before, or one is made. -/
def TokensStep (service : AuthService) (system : AuthSystem) (event : AuthEvent)
    (next : AuthSystem) : Prop :=
  next.tables.TokensDescend system.tables ∨
    ∃ tenantId userId drawn around token, event = .createPasswordReset tenantId userId drawn around ∧
      Requested service system tenantId userId drawn next token

namespace AuthTables

variable (tables : AuthTables)

theorem tokensDescend_of_eq {after before : AuthTables}
    (h : after.passwordResetTokens = before.passwordResetTokens) : after.TokensDescend before := by
  unfold TokensDescend
  rw [h]
  exact refl _

theorem consumeTokensOf_descend (tenantId userId : String) (now : Int) :
    (tables.consumeTokensOf tenantId userId now).TokensDescend tables := by
  rw [TokensDescend, consumeTokensOf, List.sublistForall₂_map_left_iff, List.sublistForall₂_iff]
  refine ⟨_, List.forall₂_same.mpr fun token _ => ?_, List.Sublist.refl _⟩
  split_ifs
  · exact ⟨rfl, rfl, rfl, rfl, fun _ => rfl⟩
  · exact .refl token

theorem consumeTokensOf_spent {tenantId userId : String} {now : Int} {token : PasswordResetToken}
    (h : token ∈ (tables.consumeTokensOf tenantId userId now).passwordResetTokens)
    (htenant : token.tenantId = tenantId) (huser : token.userId = userId) :
    token.consumedAt.isSome := by
  obtain ⟨earlier, _, rfl⟩ := List.mem_map.mp h
  split_ifs at htenant huser ⊢ with hspent
  · rfl
  · by_contra hunspent
    exact hspent ⟨htenant, huser, by simpa using hunspent⟩

@[simp] theorem updateUser_tokens (old new : UserRow) :
    (tables.updateUser old new).passwordResetTokens = tables.passwordResetTokens := by
  unfold updateUser
  dsimp only
  split_ifs
  · rfl
  · rfl

theorem administerUser_descend (sha256 : String → String) (old new : UserRow) :
    (tables.administerUser sha256 old new).TokensDescend tables := by
  unfold administerUser
  dsimp only
  split
  · show List.SublistForall₂ _
      ((tables.updateUser old new.scrubDeleted).passwordResetTokens.filter _) _
    rw [updateUser_tokens]
    exact List.filter_sublist.sublistForall₂
  · split_ifs
    · exact tokensDescend_of_eq (updateUser_tokens _ _ _)
    · exact tokensDescend_of_eq (updateUser_tokens _ _ _)
  · exact tokensDescend_of_eq (updateUser_tokens _ _ _)

end AuthTables

section Steps

variable {service : AuthService} {system : AuthSystem} {event : AuthEvent}

theorem PasswordReset.tokens {tables next : AuthTables} {around : Surroundings}
    {locator : ResetLocator} {tokenHash passwordHash : String} {user : UserRow}
    {reset : PasswordResetToken}
    (h : PasswordReset tables around locator tokenHash passwordHash user reset next) :
    next.passwordResetTokens = (tables.consumeTokensOf locator.tenantId locator.userId
      (around.databaseClock 1)).passwordResetTokens := by
  rw [h.next_eq]
  show ((tables.updateUser user _).passwordResetTokens.map _) = _
  rw [AuthTables.updateUser_tokens]
  rfl

theorem tokensStep_same {next : AuthSystem}
    (h : next.tables.passwordResetTokens = system.tables.passwordResetTokens) :
    TokensStep service system event next := .inl (AuthTables.tokensDescend_of_eq h)

theorem claimMatched_tokens {tables next : AuthTables} {userId : String} {matched : MatchedCode}
    (h : tables.claimMatched userId matched = .ok next) :
    next.passwordResetTokens = tables.passwordResetTokens := by
  unfold AuthTables.claimMatched at h
  split at h
  · obtain rfl := Except.ok.inj h
    rfl
  · obtain ⟨_, rfl⟩ := claimTotpTimeStep_eq_ok h
    rfl

theorem rotateRefreshCredential_tokens {tables next : AuthTables} {around : Surroundings}
    {credential : RefreshCredential} {rotated : SelectedRefreshCredential}
    {locator : RefreshSessionLocator} {marker : Option RefreshMfaObservation}
    {outcome : RefreshRotation}
    (h : service.rotateRefreshCredential tables around credential rotated locator marker =
      .ok (outcome, next)) : next.passwordResetTokens = tables.passwordResetTokens := by
  obtain ⟨rfl, _⟩ | ⟨session, _, _, rfl⟩ | ⟨authorization, _, hrotated⟩ :=
    rotateRefreshCredential_eq_ok h
  · rfl
  · rfl
  · rw [hrotated.next_eq]
    rfl

/-- The writes of a step keep tokens, spend or delete them, unless they are of a request. -/
theorem TablesStep.tokens {tables next : AuthTables}
    (h : TablesStep service tables event next) :
    next.TokensDescend tables ∨ ∃ tenantId userId drawn around,
      event = .createPasswordReset tenantId userId drawn around := by
  cases h with
  | same => exact .inl (AuthTables.tokensDescend_of_eq rfl)
  | written => exact .inl (AuthTables.tokensDescend_of_eq (AuthTables.updateUser_tokens _ _ _))
  | issued hissued =>
      refine .inl (AuthTables.tokensDescend_of_eq ?_)
      rw [hissued.next_eq]
      exact AuthTables.updateUser_tokens _ _ _
  | rotated hrotated =>
      exact .inl (AuthTables.tokensDescend_of_eq (rotateRefreshCredential_tokens hrotated))
  | revoked => exact .inl (AuthTables.tokensDescend_of_eq rfl)
  | sessionsPurged => exact .inl (AuthTables.tokensDescend_of_eq rfl)
  | tokensPurged => exact .inl List.filter_sublist.sublistForall₂
  | requested => exact .inr ⟨_, _, _, _, rfl⟩
  | reset hreset =>
      refine .inl ?_
      unfold AuthTables.TokensDescend
      rw [hreset.tokens]
      exact AuthTables.consumeTokensOf_descend _ _ _ _
  | pinRotated => exact .inl (AuthTables.tokensDescend_of_eq (AuthTables.updateUser_tokens _ _ _))
  | begun => exact .inl (AuthTables.tokensDescend_of_eq rfl)
  | confirmed hconfirmed =>
      refine .inl (AuthTables.tokensDescend_of_eq ?_)
      rw [hconfirmed.next_eq]
      exact AuthTables.updateUser_tokens _ _ _
  | disabled _ hclaimed =>
      refine .inl (AuthTables.tokensDescend_of_eq ?_)
      rw [← claimMatched_tokens hclaimed]
      exact AuthTables.updateUser_tokens _ _ _
  | verified hverified =>
      refine .inl (AuthTables.tokensDescend_of_eq ?_)
      obtain ⟨_, rfl⟩ | ⟨found, claimed, _, _, hclaimed, rfl⟩ := hverified.outcome
      · rfl
      · rw [← claimMatched_tokens hclaimed]
        cases found.backupCodeHash with
        | none => rfl
        | some hash => exact AuthTables.updateUser_tokens _ _ _
  | administered => exact .inl (AuthTables.administerUser_descend _ _ _ _)
  | pinRecovered => exact .inl (AuthTables.tokensDescend_of_eq (AuthTables.updateUser_tokens _ _ _))
  | mfaRecovered => exact .inl (AuthTables.tokensDescend_of_eq (AuthTables.updateUser_tokens _ _ _))

/-- The tokens after a step descend from those before, or one of them is made. -/
theorem authStep_tokens (service : AuthService) (system : AuthSystem) (event : AuthEvent) :
    TokensStep service system event (service.authStep system event).2 := by
  obtain hdescend | ⟨tenantId, userId, drawn, around, rfl⟩ :=
    (authStep_tables service system event).tokens
  · exact .inl hdescend
  · -- Only a request makes a token, and it draws the token's id.
    show TokensStep service system _ (service.createResetStep system tenantId userId drawn around).2
    unfold AuthService.createResetStep
    split
    · exact tokensStep_same rfl
    · rename_i tables hcreated
      obtain rfl | ⟨token, email, hid, htenant, huser, hhash, hfresh, rfl⟩ :=
        createPasswordReset_tables hcreated
      · exact tokensStep_same rfl
      · exact .inr ⟨tenantId, userId, drawn, around, token, rfl, ⟨hid, htenant, huser, hhash⟩,
          ⟨_, rfl⟩, rfl, hfresh⟩

/-! ## Tokens that live -/

/-- Tokens have ids and hashes of their own, and of those of a user one at most is unspent. -/
structure AuthSystem.TokensSound (system : AuthSystem) : Prop where
  ids : (system.tables.passwordResetTokens.map (·.id)).Nodup
  hashes : (system.tables.passwordResetTokens.map (·.tokenHash)).Nodup
  drawn : ∀ token ∈ system.tables.passwordResetTokens, token.id ∈ system.drawnIds
  single : ∀ first ∈ system.tables.passwordResetTokens,
    ∀ second ∈ system.tables.passwordResetTokens, first.tenantId = second.tenantId →
      first.userId = second.userId → first.consumedAt = none → second.consumedAt = none →
        first.id = second.id

/-- A token after a step descends from one before, or is the one that is made. -/
theorem tokens_origin {token : PasswordResetToken}
    (htoken : token ∈ (service.authStep system event).2.tables.passwordResetTokens) :
    (∃ earlier ∈ system.tables.passwordResetTokens, token.Descends earlier) ∨
      event.drawnId = some token.id := by
  obtain hdescend | ⟨tenantId, userId, drawn, around, made, rfl, hmade⟩ :=
    authStep_tokens service system event
  · exact .inl (exists_right_of_sublistForall₂ hdescend htoken)
  · obtain ⟨now, htokens⟩ := hmade.tokens
    rw [htokens, List.mem_append, List.mem_singleton] at htoken
    obtain hold | rfl := htoken
    · exact .inl (exists_right_of_sublistForall₂
        (system.tables.consumeTokensOf_descend tenantId userId now) hold)
    · exact .inr (congrArg some hmade.token_eq.1.symm)

theorem tokensSound_step (hsound : system.Sound) (htokens : system.TokensSound)
    (hnew : New system event) : (service.authStep system event).2.TokensSound := by
  have hsubset : system.drawnIds ⊆ (service.authStep system event).2.drawnIds :=
    (authStep_draws hsound.ids).subset
  obtain hdescend | ⟨tenantId, userId, drawn, around, made, rfl, hmade⟩ :=
    authStep_tokens service system event
  · refine ⟨htokens.ids.sublist (map_sublist_of_sublistForall₂ hdescend fun h => h.id),
      htokens.hashes.sublist (map_sublist_of_sublistForall₂ hdescend fun h => h.tokenHash), ?_, ?_⟩
    · intro token htoken
      obtain ⟨earlier, hearlier, hrow⟩ := exists_right_of_sublistForall₂ hdescend htoken
      exact hsubset (hrow.id ▸ htokens.drawn earlier hearlier)
    · intro first hfirst second hsecond htenant huser hunspent hunspent'
      obtain ⟨_, hearlier, hrow⟩ := exists_right_of_sublistForall₂ hdescend hfirst
      obtain ⟨_, hearlier', hrow'⟩ := exists_right_of_sublistForall₂ hdescend hsecond
      rw [hrow.id, hrow'.id]
      exact htokens.single _ hearlier _ hearlier' (hrow.tenantId ▸ hrow'.tenantId ▸ htenant)
        (hrow.userId ▸ hrow'.userId ▸ huser) (hrow.unspent hunspent) (hrow'.unspent hunspent')
  · obtain ⟨now, happended⟩ := hmade.tokens
    -- A request spends the user's tokens before it makes one.
    have hdescend := system.tables.consumeTokensOf_descend tenantId userId now
    obtain ⟨hid, htenant, huser, _⟩ := hmade.token_eq
    have hold : ∀ token ∈ (system.tables.consumeTokensOf tenantId userId now).passwordResetTokens,
        ∃ earlier ∈ system.tables.passwordResetTokens, token.Descends earlier :=
      fun token htoken => exists_right_of_sublistForall₂ hdescend htoken
    constructor
    · rw [happended]
      refine nodup_keys_append
        (htokens.ids.sublist (map_sublist_of_sublistForall₂ hdescend fun h => h.id)) ?_
      intro token htoken heq
      obtain ⟨earlier, hearlier, hrow⟩ := hold token htoken
      refine hnew drawn.tokenId rfl ?_
      rw [← hid, ← heq, hrow.id]
      exact htokens.drawn earlier hearlier
    · rw [happended]
      refine nodup_keys_append
        (htokens.hashes.sublist (map_sublist_of_sublistForall₂ hdescend fun h => h.tokenHash)) ?_
      intro token htoken
      obtain ⟨earlier, hearlier, hrow⟩ := hold token htoken
      rw [hrow.tokenHash]
      exact hmade.new earlier hearlier
    · intro token htoken
      rw [happended, List.mem_append, List.mem_singleton] at htoken
      obtain hkept | rfl := htoken
      · obtain ⟨earlier, hearlier, hrow⟩ := hold token hkept
        exact hsubset (hrow.id ▸ htokens.drawn earlier hearlier)
      · rw [hmade.drawnIds, hid]
        exact List.mem_append_right _ (List.mem_singleton.mpr rfl)
    · have hspent : ∀ token ∈ (system.tables.consumeTokensOf tenantId userId
          now).passwordResetTokens, token.tenantId = tenantId → token.userId = userId →
            token.consumedAt ≠ none := fun token htoken htenant huser =>
        Option.isSome_iff_ne_none.mp (system.tables.consumeTokensOf_spent htoken htenant huser)
      intro first hfirst second hsecond hsame hsame' hunspent hunspent'
      rw [happended, List.mem_append, List.mem_singleton] at hfirst hsecond
      obtain hfirst | rfl := hfirst
      · obtain hsecond | rfl := hsecond
        · obtain ⟨_, hearlier, hrow⟩ := hold first hfirst
          obtain ⟨_, hearlier', hrow'⟩ := hold second hsecond
          rw [hrow.id, hrow'.id]
          exact htokens.single _ hearlier _ hearlier' (hrow.tenantId ▸ hrow'.tenantId ▸ hsame)
            (hrow.userId ▸ hrow'.userId ▸ hsame') (hrow.unspent hunspent)
            (hrow'.unspent hunspent')
        · exact absurd hunspent (hspent first hfirst (hsame.trans htenant) (hsame'.trans huser))
      · obtain hsecond | rfl := hsecond
        · exact absurd hunspent' (hspent second hsecond (hsame.symm.trans htenant)
            (hsame'.symm.trans huser))
        · rfl

/-! ## Tokens that are superseded -/

/-- The step resets a password with the token. -/
def ResetsWith (service : AuthService) (t : Transition AuthSystem AuthEvent AuthAnswer)
    (token : PasswordResetToken) : Prop :=
  ∃ tokenRaw normalized password passwordHash before around,
    t.request = .resetPassword tokenRaw password passwordHash before around ∧ t.answer = .done ∧
    normalizePasswordResetToken tokenRaw = some normalized ∧
    token ∈ t.before.tables.passwordResetTokens ∧
    token.tokenHash = service.hashPasswordResetToken normalized

/-- The step makes a token for the user, or resets his password. -/
def Supersedes (service : AuthService) (t : Transition AuthSystem AuthEvent AuthAnswer)
    (tenantId userId : String) : Prop :=
  (∃ drawn around, t.request = .createPasswordReset tenantId userId drawn around ∧
      ∃ token ∈ t.after.tables.passwordResetTokens, token.id = drawn.tokenId) ∨
    ∃ token, ResetsWith service t token ∧ token.tenantId = tenantId ∧ token.userId = userId

theorem settle_done {outcome : Except AuthError AuthTables}
    (h : (system.settle outcome).1 = .done) :
    ∃ next, outcome = .ok next ∧ (system.settle outcome).2.tables = next := by
  cases outcome with
  | error error => cases h
  | ok next => exact ⟨next, rfl, rfl⟩

theorem resetsWith_step {token : PasswordResetToken} (htokens : system.TokensSound)
    (h : ResetsWith service (transition service.authStep system event) token) :
    ∃ around locator tokenHash passwordHash user,
      PasswordReset system.tables around locator tokenHash passwordHash user token
        (service.authStep system event).2.tables := by
  obtain ⟨tokenRaw, normalized, password, passwordHash, before, around, hevent, hanswer, hnormal,
    htoken, hhash⟩ := h
  obtain rfl : event = .resetPassword tokenRaw password passwordHash before around := hevent
  simp only [transition, authStep_resetPassword] at hanswer htoken
  rw [authStep_resetPassword]
  obtain ⟨next, houtcome, hnext⟩ := settle_done hanswer
  obtain ⟨found, locator, user, reset, hfound, hreset⟩ := resetPasswordWithToken_eq_ok houtcome
  obtain rfl := Option.some.inj (hnormal.symm.trans hfound)
  obtain rfl := eq_of_key htokens.hashes htoken hreset.token
    (hhash.trans hreset.named.2.2.2.symm)
  rw [hnext]
  exact ⟨around, locator, _, passwordHash, user, hreset⟩

/-- The tokens of a user that were drawn before are spent when he gets another or resets his
password. -/
theorem supersedes_step {tenantId userId : String} (hnew : New system event)
    (htokens : system.TokensSound)
    (h : Supersedes service (transition service.authStep system event) tenantId userId) :
    ∀ token ∈ (service.authStep system event).2.tables.passwordResetTokens,
      token.tenantId = tenantId → token.userId = userId → token.id ∈ system.drawnIds →
        token.consumedAt.isSome := by
  intro token htoken htenant huser hdrawn
  obtain ⟨drawn, around, hevent, made, hmade, hid⟩ | ⟨reset, hresets, rfl, rfl⟩ := h
  · obtain rfl : event = .createPasswordReset tenantId userId drawn around := hevent
    change made ∈ (service.authStep system _).2.tables.passwordResetTokens at hmade
    obtain hdescend | ⟨tenantId, userId, drawn, around, made, heq, hmade⟩ :=
      authStep_tokens service system (.createPasswordReset tenantId userId drawn around)
    · -- The new token is not among those before.
      obtain ⟨earlier, hearlier, hrow⟩ := exists_right_of_sublistForall₂ hdescend hmade
      refine absurd ?_ (hnew drawn.tokenId rfl)
      rw [← hid, hrow.id]
      exact htokens.drawn earlier hearlier
    · obtain ⟨rfl, rfl, rfl, rfl⟩ := AuthEvent.createPasswordReset.inj heq
      obtain ⟨now, happended⟩ := hmade.tokens
      rw [happended, List.mem_append, List.mem_singleton] at htoken
      obtain hkept | rfl := htoken
      · exact AuthTables.consumeTokensOf_spent _ hkept htenant huser
      · exact absurd (hmade.token_eq.1 ▸ hdrawn) (hnew drawn.tokenId rfl)
  · obtain ⟨around, locator, tokenHash, passwordHash, user, hreset⟩ :=
      resetsWith_step htokens hresets
    rw [hreset.tokens] at htoken
    obtain ⟨_, hlocatorTenant, hlocatorUser, _⟩ := hreset.named
    exact AuthTables.consumeTokensOf_spent _ htoken (htenant.trans hlocatorTenant)
      (huser.trans hlocatorUser)

/-! ## Sessions that end with their credentials -/

/-- The step replaces what the user signs in with, or takes his sessions away. -/
def EndsSessionsOf (service : AuthService) (t : Transition AuthSystem AuthEvent AuthAnswer)
    (userId : String) : Prop :=
  match t.request with
  | .revokeSessionsOf ended _ => ended = userId
  | .resetPassword _ _ _ _ _ => ∃ token, ResetsWith service t token ∧ token.userId = userId
  | .rotateOwnPin actor _ _ _ _ _ => actor.userId = userId ∧ t.answer = .done
  | .disableMfa actor _ _ _ => actor.userId = userId ∧ t.answer = .done ∧
      ∃ user, t.before.tables.liveUser? actor.userId actor.tenantId = some user ∧
        user.mfaEnabled = true
  | .recoverPin ended tenantId _ _ => ended = userId ∧
      ∃ user, t.before.tables.liveUser? ended tenantId = some user ∧ user.username.isSome
  | .recoverMfa ended tenantId _ => ended = userId ∧
      ∃ user, t.before.tables.liveUser? ended tenantId = some user ∧ user.mfaEnabled = true
  | .administer ended tenantId (.lifecycle deletedAt suspendedAt) => ended = userId ∧
      ∃ user, t.before.tables.user? ended tenantId = some user ∧
        (deletedAt.isSome ∨ suspendedAt.isSome ∧ user.suspendedAt ≠ suspendedAt)
  | _ => False

theorem AuthTables.revokeSessionsOf_revoked {tables : AuthTables} {userId : String} {now : Int}
    {row : SessionRow} (hrow : row ∈ (tables.revokeSessionsOf userId now).sessions)
    (huser : row.userId = userId) : row.revokedAt.isSome := by
  obtain ⟨earlier, _, rfl⟩ := List.mem_map.mp hrow
  split_ifs at huser ⊢ with hstands
  · rw [SessionRow.revoke_revokedAt]
    rfl
  · by_contra hunrevoked
    exact hstands (by simpa [huser] using hunrevoked)

theorem AuthTables.eraseUser_revoked {tables : AuthTables} {sha256 : String → String}
    {user : UserRow} {deletedAt : Int} {row : SessionRow}
    (hrow : row ∈ (tables.eraseUser sha256 user deletedAt).sessions)
    (huser : row.userId = user.id) : row.revokedAt.isSome := by
  obtain ⟨earlier, _, rfl⟩ := List.mem_map.mp hrow
  split_ifs at huser ⊢ with howned
  · rw [SessionRow.scrubDeleted, SessionRow.revoke_revokedAt]
    rfl
  · exact absurd huser howned

/-- A deletion or a suspension leaves the user no session that stands. -/
theorem AuthTables.administerUser_revoked {tables : AuthTables} {sha256 : String → String}
    {user : UserRow} {deletedAt suspendedAt : Option Int} {row : SessionRow}
    (hends : deletedAt.isSome ∨ suspendedAt.isSome ∧ user.suspendedAt ≠ suspendedAt)
    (hrow : row ∈ (tables.administerUser sha256 user
      (user.administer (.lifecycle deletedAt suspendedAt))).sessions)
    (huser : row.userId = user.id) : row.revokedAt.isSome := by
  unfold AuthTables.administerUser at hrow
  dsimp only at hrow
  cases deletedAt with
  | some time => exact AuthTables.eraseUser_revoked hrow huser
  | none =>
      obtain hdeleted | ⟨hsuspended, hnew⟩ := hends
      · cases hdeleted
      · cases suspendedAt with
        | none => cases hsuspended
        | some time =>
            change row ∈ (if user.suspendedAt = some time then _ else _ : AuthTables).sessions at hrow
            rw [if_neg hnew] at hrow
            exact AuthTables.revokeSessionsOf_revoked hrow huser

theorem endsSessionsOf_step {userId : String} (htokens : system.TokensSound)
    (h : EndsSessionsOf service (transition service.authStep system event) userId)
    {row : SessionRow} (hrow : row ∈ (service.authStep system event).2.tables.sessions)
    (huser : row.userId = userId) : row.revokedAt.isSome := by
  cases event with
  | revokeSessionsOf ended now =>
      obtain rfl : ended = userId := h
      exact AuthTables.revokeSessionsOf_revoked hrow huser
  | resetPassword tokenRaw password passwordHash before around =>
      obtain ⟨token, hresets, howner⟩ := h
      obtain ⟨_, locator, _, _, user, hreset⟩ := resetsWith_step htokens hresets
      rw [hreset.next_eq] at hrow
      refine AuthTables.revokeSessionsOf_revoked hrow (huser.trans (howner.symm.trans ?_))
      exact hreset.named.2.2.1
  | rotateOwnPin actor currentPin newPin newPinHash observed around =>
      obtain ⟨rfl, hanswer⟩ := h
      obtain ⟨next, houtcome, hnext⟩ := settle_done hanswer
      obtain ⟨context, _, rfl⟩ := rotateOwnPin_eq_ok houtcome
      change row ∈ (system.settle _).2.tables.sessions at hrow
      rw [hnext] at hrow
      exact AuthTables.revokeSessionsOf_revoked hrow huser
  | disableMfa actor code before around =>
      obtain ⟨rfl, hanswer, user, hlive, henabled⟩ := h
      obtain ⟨next, houtcome, hnext⟩ := settle_done hanswer
      obtain ⟨⟨matched, tables⟩, hdisabled, rfl⟩ := map_eq_ok.mp houtcome
      change row ∈ (system.settle _).2.tables.sessions at hrow
      rw [hnext] at hrow
      -- Where the second factor is off already, nothing is written.
      obtain ⟨context, hcontext, ⟨hoff, _, _⟩ | ⟨found, claimed, _, _, _, rfl⟩⟩ :=
        disableMfa_eq_ok hdisabled
      · change system.tables.liveUser? _ _ = _ at hlive
        rw [(selfSecurityContext_eq_ok hcontext).1] at hlive
        obtain rfl := Option.some.inj hlive
        rw [henabled] at hoff
        cases hoff
      · exact AuthTables.revokeSessionsOf_revoked hrow huser
  | recoverPin ended tenantId pinHash now =>
      obtain ⟨rfl, user, hlive, husername⟩ := h
      change row ∈ (AuthService.recoverPin system.tables ended tenantId pinHash now).sessions at hrow
      change system.tables.liveUser? _ _ = _ at hlive
      simp only [AuthService.recoverPin, hlive, husername, if_true] at hrow
      exact AuthTables.revokeSessionsOf_revoked hrow huser
  | recoverMfa ended tenantId now =>
      obtain ⟨rfl, user, hlive, henabled⟩ := h
      change row ∈ (AuthService.recoverMfa system.tables ended tenantId now).sessions at hrow
      change system.tables.liveUser? _ _ = _ at hlive
      simp only [AuthService.recoverMfa, hlive, henabled, if_true] at hrow
      exact AuthTables.revokeSessionsOf_revoked hrow huser
  | administer ended tenantId change =>
      cases change with
      | lifecycle deletedAt suspendedAt =>
          obtain ⟨rfl, user, hfound, hends⟩ := h
          change system.tables.user? _ _ = _ at hfound
          unfold AuthService.authStep at hrow
          simp only [hfound] at hrow
          refine AuthTables.administerUser_revoked hends hrow (huser.trans ?_)
          exact (AuthTables.user?_eq_some _ hfound).2.1.symm
      | profile role email username => exact h.elim
      | lock lockedUntil => exact h.elim
      | unlock => exact h.elim
  | _ => exact h.elim

/-- Every session that a user had has ended after such a step. -/
theorem endsSessionsOf_ended {userId : String} (hsound : system.Sound)
    (htokens : system.TokensSound) (hnew : New system event)
    (h : EndsSessionsOf service (transition service.authStep system event) userId)
    {row : SessionRow} (hrow : row ∈ system.tables.sessions) (huser : row.userId = userId) :
    Ended row.id (service.authStep system event).2 := by
  refine ⟨(authStep_draws hsound.ids).subset (hsound.drawn row hrow), fun later hlater hid => ?_⟩
  -- The id was drawn before, so whoever has it now is that session.
  obtain ⟨earlier, hearlier, hdescends⟩ := origin_of_drawn hsound hnew hlater
    (hid ▸ hsound.drawn row hrow)
  obtain rfl := eq_of_key hsound.ids hearlier hrow (hdescends.id.symm.trans hid)
  exact endsSessionsOf_step htokens h hlater (hdescends.userId.trans huser)

end Steps

/-! ## A user who forgot his password -/

/-- A user who may sign in with a password, and has a session. -/
def forgotten : AuthSystem :=
  { twoRefreshes with
    tables := ⟨[{ staffUser with email := some "kim@example.test", passwordHash := some "old" }],
      [noonSession], [], [], [], []⟩ }

theorem forgotten_sound : forgotten.Sound where
  ids := by decide
  drawn := by decide
  userIds := by decide
  located := by decide

theorem forgotten_tokens : forgotten.TokensSound where
  ids := by decide
  hashes := by decide
  drawn := by decide
  single := by decide

def firstReset : NewReset :=
  ⟨"first", "AAAAAAAAAAAAAAAAAAAAAAAAAAAAAAAAAAAAAAAAAAA", "mail-1", "sealed", "key"⟩

def secondReset : NewReset :=
  ⟨"second", "BBBBBBBBBBBBBBBBBBBBBBBBBBBBBBBBBBBBBBBBBBB", "mail-2", "sealed", "key"⟩

/-- He asks twice, and uses the token that he was mailed first. -/
def twoRequests : List AuthEvent :=
  [.createPasswordReset "tenant" "user" firstReset noon,
    .createPasswordReset "tenant" "user" secondReset noon,
    .resetPassword "AAAAAAAAAAAAAAAAAAAAAAAAAAAAAAAAAAAAAAAAAAA" "correct horse" "new"
      forgotten.tables noon]

theorem twoRequests_fresh : FreshIds forgotten twoRequests := by
  unfold FreshIds
  decide

/-! ## Runs -/

section Runs

variable (service : AuthService) {system : AuthSystem} {events : List AuthEvent}

/-- A user never has two tokens that can still be used. -/
theorem one_token_lives (hsound : system.Sound) (htokens : system.TokensSound)
    (hfresh : FreshIds system events) (tenantId userId : String) :
    (final service.authStep system events).tables.passwordResetTokens.countP (fun token =>
      token.tenantId = tenantId ∧ token.userId = userId ∧ token.consumedAt = none) ≤ 1 := by
  obtain ⟨_, hend⟩ := invariant_final_of_trace
    (fun state : AuthSystem => state.Sound ∧ state.TokensSound)
    (fun _ _ hstate hnew => ⟨sound_step hstate.1 hnew, tokensSound_step hstate.1 hstate.2 hnew⟩)
    ⟨hsound, htokens⟩
    (hfresh.steps hsound : ∀ t ∈ trace service.authStep system events, New t.before t.request)
  rw [List.countP_eq_length_filter]
  refine length_le_one_of_eq (hend.ids.of_map.filter _) ?_
  intro first hfirst second hsecond
  simp only [List.mem_filter, decide_eq_true_eq] at hfirst hsecond
  obtain ⟨hfirst, htenant, huser, hunspent⟩ := hfirst
  obtain ⟨hsecond, htenant', huser', hunspent'⟩ := hsecond
  exact eq_of_key hend.ids hfirst hsecond (hend.single first hfirst second hsecond
    (htenant.trans htenant'.symm) (huser.trans huser'.symm) hunspent hunspent')

theorem twoRequests_leave_one :
    (final plainService.authStep forgotten twoRequests).tables.passwordResetTokens.countP
      (fun token => token.tenantId = "tenant" ∧ token.userId = "user" ∧
        token.consumedAt = none) ≤ 1 :=
  one_token_lives plainService forgotten_sound forgotten_tokens twoRequests_fresh "tenant" "user"

/-- After a user got another token, or reset his password, no token that was there before resets
his password: every token is used once at most. -/
theorem superseded_token_refused (hsound : system.Sound) (htokens : system.TokensSound)
    (hfresh : FreshIds system events) (tenantId userId : String) :
    (trace service.authStep system events).Pairwise fun t later =>
      Supersedes service t tenantId userId → ∀ token, ResetsWith service later token →
        token.tenantId = tenantId → token.userId = userId → token.id ∉ t.before.drawnIds :=
  pairwise_trace (fun state : AuthSystem => state.Sound ∧ state.TokensSound)
    (fun t state => t.before.drawnIds ⊆ state.drawnIds ∧
      (Supersedes service t tenantId userId → ∀ token ∈ state.tables.passwordResetTokens,
        token.tenantId = tenantId → token.userId = userId → token.id ∈ t.before.drawnIds →
          token.consumedAt.isSome))
    (fun _ _ hstate hnew => ⟨sound_step hstate.1 hnew, tokensSound_step hstate.1 hstate.2 hnew⟩)
    (fun _ _ hstate hnew => ⟨(authStep_draws hstate.1.ids).subset,
      fun hsupersedes => supersedes_step hnew hstate.2 hsupersedes⟩)
    (fun t state event hstate hnew hmark => by
      refine ⟨List.Subset.trans hmark.1 (authStep_draws hstate.1.ids).subset,
        fun hsupersedes token htoken htenant huser hdrawn => ?_⟩
      obtain ⟨earlier, hearlier, hrow⟩ | hmade := tokens_origin htoken
      · exact hrow.consumed (hmark.2 hsupersedes earlier hearlier (hrow.tenantId ▸ htenant)
          (hrow.userId ▸ huser) (hrow.id ▸ hdrawn))
      · exact absurd (hmark.1 hdrawn) (hnew token.id hmade))
    (fun t state event hstate _ hmark hsupersedes token hresets htenant huser hdrawn => by
      obtain ⟨_, _, _, _, _, hreset⟩ := resetsWith_step hstate.2 hresets
      have hspent := hmark.2 hsupersedes token hreset.token htenant huser hdrawn
      rw [hreset.unspent] at hspent
      cases hspent)
    ⟨hsound, htokens⟩ (hfresh.steps hsound)

theorem twoRequests_supersede :
    (trace plainService.authStep forgotten twoRequests).Pairwise fun t later =>
      Supersedes plainService t "tenant" "user" → ∀ token, ResetsWith plainService later token →
        token.tenantId = "tenant" → token.userId = "user" → token.id ∉ t.before.drawnIds :=
  superseded_token_refused plainService forgotten_sound forgotten_tokens twoRequests_fresh "tenant"
    "user"

/-- After a step that replaces what a user signs in with, no answer stands for a session that he
had before. -/
theorem sessions_end_with_credentials (hsound : system.Sound) (htokens : system.TokensSound)
    (hfresh : FreshIds system events) (userId : String) :
    (trace service.authStep system events).Pairwise fun t later =>
      EndsSessionsOf service t userId → ∀ row ∈ t.before.tables.sessions, row.userId = userId →
        later.answer.sessionId ≠ some row.id :=
  pairwise_trace (fun state : AuthSystem => state.Sound ∧ state.TokensSound)
    (fun t state => EndsSessionsOf service t userId → ∀ row ∈ t.before.tables.sessions,
      row.userId = userId → Ended row.id state)
    (fun _ _ hstate hnew => ⟨sound_step hstate.1 hnew, tokensSound_step hstate.1 hstate.2 hnew⟩)
    (fun _ _ hstate hnew hends _ hrow huser =>
      endsSessionsOf_ended hstate.1 hstate.2 hnew hends hrow huser)
    (fun _ _ _ hstate hnew hmark hends row hrow huser =>
      ended_step hstate.1 hnew (hmark hends row hrow huser))
    (fun _ _ _ _ hnew hmark hends _ hrow huser =>
      ended_answer hnew (hmark hends _ hrow huser))
    ⟨hsound, htokens⟩ (hfresh.steps hsound)

theorem recovered_pin_ends_session :
    (plainService.authStep (plainService.authStep forgotten (.recoverPin "user" "tenant" "1234"
      43200000)).2 (.rotate 0 noon)).1.sessionId ≠ some "session" := by
  have hfresh : FreshIds forgotten
      [.recoverPin "user" "tenant" "1234" 43200000, .rotate 0 noon] := by
    unfold FreshIds
    decide
  have hpairs := sessions_end_with_credentials plainService forgotten_sound forgotten_tokens hfresh
    "user"
  exact (List.pairwise_cons.mp hpairs).1 _ List.mem_cons_self ⟨rfl, _, rfl, rfl⟩ noonSession
    List.mem_cons_self rfl

end Runs

end LunchLineup.Auth
