import RemoteFiles.Proofs.Action.Selection
import RemoteFiles.Proofs.Step
import RemoteFiles.Request

/-!
# Which requests can be built from a command line

The parameters of a request are flags, fields, a session and perhaps a password. `Judged` is the
list of rules by which they are accepted or refused, the disk being as it is. Each rule names the
flags, the fields and the state of the disk that it is about; no order among the rules is needed,
since no two of them apply at once.

* `resolve_of_grants`, `outcome_of_judged` -- what a rule says is what comes out;
* `exists_judged` -- some rule applies, whatever the parameters are;
* `ofParams_judged` -- the rules are therefore exact; a state that earlier checks rule out is never
  reached, and resolving the action alone agrees with building the whole request.
-/

namespace RemoteFiles

namespace Request.Params

/-! ## 1. The rules -/

/-- The operation is made of what the parameters supply, and the disk as it is allows it. -/
def Grants (params : Params) (disk : Disk) : Operation → Prop
  | .authenticate => False
  | .shell => True
  | .ls path | .mkdir path | .delete path => params.fields.destination = some path
  | .get path target =>
    params.fields.destination = some path ∧
      ∃ directory name, params.fields.source = some directory ∧
        (Path.ofString path).fileName? = some name ∧ target = directory.join ⟨name⟩ ∧
        disk.isDirectory directory = true ∧ disk.reaches target = false
  | .put source directory =>
    params.fields.source = some source ∧ params.fields.destination = some directory ∧
      ∃ name text, source.fileName? = some name ∧ Utf8.decode? name = some text
  | .account change =>
    params.flags.accountOf change.action.kind = some change.username ∧
      change.permission = params.fields.permission.getD .read ∧
      change.password =
        match change.action with
        | .create => params.newPassword
        | .delete => none
  | .onDisk _ path => params.fields.source = some path

/-- What comes of the parameters, the disk being as it is. -/
inductive Judged (params : Params) (disk : Disk) : Except Error Request → Prop
  | several (kind other : ActionKind) (h : params.flags.Sets kind) (h' : params.flags.Sets other)
    (hne : kind ≠ other) : Judged params disk (.error .multipleActions)
  | unset (h : ∀ kind, ¬ params.flags.Sets kind) : Judged params disk (.error .noAction)
  | lacking (kind : ActionKind) (hkind : params.flags.Selects kind)
    (h : kind.dependency.Lacks params.fields) :
    Judged params disk (.error (.missingField kind.name kind.dependency.needs))
  | noDirectory (path : String) (directory : Path) (hkind : params.flags.Selects .get)
    (hpath : params.fields.destination = some path)
    (hdirectory : params.fields.source = some directory)
    (h : disk.isDirectory directory = false) :
    Judged params disk (.error (.notDirectory directory))
  | noRemoteName (path : String) (directory : Path) (hkind : params.flags.Selects .get)
    (hpath : params.fields.destination = some path)
    (hdirectory : params.fields.source = some directory)
    (hallowed : disk.isDirectory directory = true) (h : (Path.ofString path).fileName? = none) :
    Judged params disk (.error (.noFileName path))
  | occupied (path : String) (directory : Path) (name : Name) (hkind : params.flags.Selects .get)
    (hpath : params.fields.destination = some path)
    (hdirectory : params.fields.source = some directory)
    (hallowed : disk.isDirectory directory = true)
    (hname : (Path.ofString path).fileName? = some name)
    (h : disk.reaches (directory.join ⟨name⟩) = true) :
    Judged params disk (.error (.fileExists (directory.join ⟨name⟩)))
  | noLocalName (source : Path) (directory : String) (hkind : params.flags.Selects .put)
    (hsource : params.fields.source = some source)
    (hdirectory : params.fields.destination = some directory) (h : source.fileName? = none) :
    Judged params disk (.error (.noFileName source.display))
  | notText (source : Path) (directory : String) (name : Name) (hkind : params.flags.Selects .put)
    (hsource : params.fields.source = some source)
    (hdirectory : params.fields.destination = some directory)
    (hname : source.fileName? = some name) (h : Utf8.decode? name = none) :
    Judged params disk (.error .badString)
  | accepted (operation : Operation) (hkind : params.flags.Selects operation.action.kind)
    (hfields : ¬ operation.action.kind.dependency.Lacks params.fields)
    (h : params.Grants disk operation) : Judged params disk (.ok ⟨params.session, operation⟩)

end Request.Params

/-! ## 2. Building an operation -/

namespace Operation

section Building

variable {disk : Disk} {path : String} {directory : Path} {name : Name}

theorem ofDownload_of_not_directory (h : disk.isDirectory directory = false) :
    ofDownload disk path directory = .error (.notDirectory directory) := by
  rw [ofDownload, h]
  rfl

theorem ofDownload_of_directory (h : disk.isDirectory directory = true) :
    ofDownload disk path directory =
      match (Path.ofString path).fileName? with
      | none => .error (.noFileName path)
      | some name =>
        if disk.reaches (directory.join ⟨name⟩) then .error (.fileExists (directory.join ⟨name⟩))
        else .ok (get path (directory.join ⟨name⟩)) := by
  rw [ofDownload, h]
  show (downloadTarget path directory >>= fun target => _) = _
  rw [downloadTarget]
  cases hname : (Path.ofString path).fileName? with
  | none => rfl
  | some name =>
    show (checkTarget disk (directory.join ⟨name⟩) >>= fun _ => _) = _
    rw [checkTarget]
    by_cases hreached : disk.reaches (directory.join ⟨name⟩) = true
    · rw [if_pos hreached]
      exact (if_pos hreached).symm
    · rw [if_neg hreached]
      exact (if_neg hreached).symm

/-- **When a download is built**, and what it is. -/
theorem ofDownload_eq_ok_iff {operation : Operation} :
    ofDownload disk path directory = .ok operation ↔
      disk.isDirectory directory = true ∧
        ∃ name, (Path.ofString path).fileName? = some name ∧
          ¬ disk.reaches (directory.join ⟨name⟩) = true ∧
          operation = get path (directory.join ⟨name⟩) := by
  constructor
  · intro h
    cases hallowed : disk.isDirectory directory with
    | false =>
      rw [ofDownload_of_not_directory hallowed] at h
      cases h
    | true =>
      rw [ofDownload_of_directory hallowed] at h
      split at h
      · cases h
      · rename_i name hname
        split at h
        · cases h
        · rename_i hfree
          cases h
          exact ⟨rfl, name, hname, hfree, rfl⟩
  · rintro ⟨hallowed, name, hname, hfree, rfl⟩
    rw [ofDownload_of_directory hallowed, hname]
    exact if_neg hfree

theorem action_of_ofDownload {operation : Operation}
    (h : ofDownload disk path directory = .ok operation) : operation.action = .get := by
  obtain ⟨-, name, -, -, rfl⟩ := ofDownload_eq_ok_iff.mp h
  rfl

theorem ofUpload_eq (source : Path) (remote : String) :
    ofUpload source remote =
      match source.fileName? with
      | none => .error (.noFileName source.display)
      | some name =>
        match Utf8.decode? name with
        | none => .error .badString
        | some _ => .ok (put source remote) := by
  rw [ofUpload, uploadPath]
  cases source.fileName? with
  | none => rfl
  | some name => cases htext : Utf8.decode? name <;> simp only [htext] <;> rfl

/-- An account with a name passes its check. -/
theorem ofAccount_of_name {username : String} (h : username ≠ "") (action : AccountAction)
    (permission : Permission) (password : Option Secret) :
    ofAccount action username permission password =
      .ok (account ⟨action, permission, username,
        match action with
        | .create => password
        | .delete => none⟩) := by
  have hname : ¬ username.isEmpty = true := fun hempty => h (String.isEmpty_iff.mp hempty)
  have hcheck : ∀ kept, checkAccount ⟨action, permission, username, kept⟩ = .ok () :=
    fun _ => if_neg hname
  unfold ofAccount
  simp only [hcheck]
  rfl

end Building

/-- With both paths there, a download is resolved by its own checks. -/
theorem resolve_get {disk : Disk} {fields : Fields} {path : String} {directory : Path}
    (hpath : fields.destination = some path) (hdirectory : fields.source = some directory)
    (account : Option String) (password : Option Secret) :
    resolve disk .get account password fields = ofDownload disk path directory := by
  have hcheck : Action.get.dependency.check Action.get.kind fields = .ok () :=
    Dependency.check_of_not_lacks (Dependency.not_lacks_both hdirectory hpath) _
  unfold resolve
  rw [hcheck, hpath, hdirectory]
  rfl

/-- With both paths there, an upload is resolved by its own checks. -/
theorem resolve_put {disk : Disk} {fields : Fields} {source : Path} {directory : String}
    (hsource : fields.source = some source) (hdirectory : fields.destination = some directory)
    (account : Option String) (password : Option Secret) :
    resolve disk .put account password fields = ofUpload source directory := by
  have hcheck : Action.put.dependency.check Action.put.kind fields = .ok () :=
    Dependency.check_of_not_lacks (Dependency.not_lacks_both hsource hdirectory) _
  unfold resolve
  rw [hcheck, hsource, hdirectory]
  rfl

/-- **An operation that is granted is built**, once the fields it depends on are there. -/
theorem resolve_of_grants {params : Request.Params} {disk : Disk} {operation : Operation}
    (hset : params.flags.Sets operation.action.kind)
    (hfields : ¬ operation.action.kind.dependency.Lacks params.fields)
    (h : params.Grants disk operation) :
    resolve disk operation.action (params.flags.accountOf operation.action.kind)
      params.newPassword params.fields = .ok operation := by
  have hcheck : operation.action.dependency.check operation.action.kind params.fields = .ok () :=
    Dependency.check_of_not_lacks hfields _
  cases operation with
  | authenticate => exact h.elim
  | shell => rfl
  | ls path | mkdir path | delete path =>
    have hpath : params.fields.destination = some path := h
    unfold resolve
    rw [hcheck]
    simp only [action, hpath]
    rfl
  | get path target =>
    obtain ⟨hpath, directory, name, hdirectory, hname, rfl, hallowed, hfree⟩ := h
    refine (resolve_get hpath hdirectory _ _).trans ?_
    rw [ofDownload_of_directory hallowed, hname]
    exact if_neg (by rw [hfree]; decide)
  | put source directory =>
    obtain ⟨hsource, hdirectory, name, text, hname, htext⟩ := h
    refine (resolve_put hsource hdirectory _ _).trans ?_
    rw [ofUpload_eq, hname]
    simp only [htext]
  | account change =>
    obtain ⟨action, permission, username, password⟩ := change
    obtain ⟨hname, hpermission, hpassword⟩ := h
    simp only at hname hpermission hpassword
    subst hpermission hpassword
    have hnonempty : username ≠ "" := by
      intro hempty
      cases action with
      | create | delete =>
        obtain ⟨name, hflag, hne⟩ := hset
        exact hne (Option.some.inj (hflag.symm.trans (hname.trans (congrArg some hempty))))
    unfold resolve
    rw [hcheck]
    simp only [Operation.action, Action.kind, hname]
    exact ofAccount_of_name hnonempty action _ params.newPassword
  | onDisk action path =>
    have hpath : params.fields.source = some path := h
    unfold resolve
    rw [hcheck]
    simp only [Operation.action, hpath]
    rfl

/-- **An operation is built for its action**, whatever else it is made of. -/
theorem action_of_resolve {disk : Disk} {action : Action} {username : Option String}
    {password : Option Secret} {fields : Fields} {operation : Operation}
    (h : resolve disk action username password fields = .ok operation) :
    operation.action = action := by
  unfold resolve at h
  obtain ⟨_, -, hmade⟩ := Step.result_bind_eq_ok_iff.mp h
  cases action with
  | authenticate | shell =>
    cases hmade
    rfl
  | ls | mkdir | delete | onDisk =>
    obtain ⟨path, -, hpath⟩ := Step.result_bind_eq_ok_iff.mp hmade
    cases hpath
    rfl
  | get =>
    obtain ⟨path, -, hpath⟩ := Step.result_bind_eq_ok_iff.mp hmade
    obtain ⟨directory, -, hdownload⟩ := Step.result_bind_eq_ok_iff.mp hpath
    exact action_of_ofDownload hdownload
  | put =>
    obtain ⟨source, -, hsource⟩ := Step.result_bind_eq_ok_iff.mp hmade
    obtain ⟨directory, -, hupload⟩ := Step.result_bind_eq_ok_iff.mp hsource
    obtain ⟨path, -, hput⟩ := Step.result_bind_eq_ok_iff.mp hupload
    cases hput
    rfl
  | account change =>
    obtain ⟨_, -, haccount⟩ := Step.result_bind_eq_ok_iff.mp hmade
    cases haccount
    rfl

end Operation

/-! ## 3. Building a request -/

namespace Request

section Selected

variable {params : Params} {kind : ActionKind} {action : Action}

/-- What the log says about an action that has been resolved. -/
def resolution (action : Action) : Log.Record :=
  ⟨.debug, "resolved " ++ action.kind.name ++ " to opcode " ++ action.opcode.name ++ " flag " ++
    action.userFlag.name⟩

/-- Flags that do not select one kind are refused before anything else is looked at. -/
theorem resolve_of_select_error {error : Error} (h : params.flags.select = .error error)
    (client : Client) :
    params.flags.resolve params.fields client = .error error client ∧
      ofParams params client = .error error client := by
  rw [Flags.resolve, ofParams, h]
  exact ⟨rfl, rfl⟩

theorem resolve_of_lacks (hkind : params.flags.Selects kind)
    (h : kind.dependency.Lacks params.fields) (client : Client) :
    params.flags.resolve params.fields client =
        .error (.missingField kind.name kind.dependency.needs) client ∧
      ofParams params client =
        .error (.missingField kind.name kind.dependency.needs) client := by
  obtain ⟨action, haction, -⟩ := Action.exists_ofKind hkind.1
  have hlacking : Action.resolve kind params.fields client =
      .error (.missingField kind.name kind.dependency.needs) client := by
    rw [Action.resolve, Action.ofSelected_of_lacks haction h]
    rfl
  rw [Flags.resolve, ofParams, Flags.select_of_selects hkind]
  exact ⟨hlacking, Step.bind_of_error hlacking _⟩

theorem resolve_of_not_lacks (hkind : params.flags.Selects kind)
    (haction : Action.ofKind kind = .ok action) (h : ¬ kind.dependency.Lacks params.fields)
    (client : Client) :
    params.flags.resolve params.fields client =
      .ok action { client with log := client.log ++ [resolution action] } := by
  rw [Flags.resolve, Flags.select_of_selects hkind]
  show Action.resolve kind params.fields client = _
  rw [Action.resolve, Action.ofSelected_of_not_lacks haction h, resolution,
    Action.kind_of_ofKind haction]
  rfl

/-- **Once its action has been resolved, a request is the operation** that is built for it. -/
theorem ofParams_of_not_lacks (hkind : params.flags.Selects kind)
    (haction : Action.ofKind kind = .ok action) (h : ¬ kind.dependency.Lacks params.fields)
    (client : Client) :
    ofParams params client =
      match Operation.resolve client.disk action (params.flags.accountOf kind) params.newPassword
        params.fields with
      | .ok operation =>
        .ok ⟨params.session, operation⟩ { client with log := client.log ++ [resolution action] }
      | .error error => .error error { client with log := client.log ++ [resolution action] } := by
  have hresolved := resolve_of_not_lacks hkind haction h client
  rw [Flags.resolve, Flags.select_of_selects hkind] at hresolved
  rw [ofParams, Flags.select_of_selects hkind]
  refine Eq.trans (Step.bind_of_ok hresolved _) ?_
  show (ClientM.require (Operation.resolve client.disk action _ _ _) >>= _) _ = _
  cases Operation.resolve client.disk action (params.flags.accountOf kind) params.newPassword
    params.fields <;> rfl

end Selected

/-! ## 4. The rules are exact -/

section Rules

variable {params : Params} {client : Client}

/-- What a download comes to once both its paths are there. -/
theorem ofParams_get {path : String} {directory : Path} (hkind : params.flags.Selects .get)
    (hpath : params.fields.destination = some path)
    (hdirectory : params.fields.source = some directory) :
    Step.outcome (ofParams params client) =
      (Operation.ofDownload client.disk path directory).map fun operation =>
        ⟨params.session, operation⟩ := by
  have hfields : ¬ ActionKind.get.dependency.Lacks params.fields :=
    Dependency.not_lacks_both hdirectory hpath
  rw [ofParams_of_not_lacks hkind rfl hfields client, Operation.resolve_get hpath hdirectory]
  cases Operation.ofDownload client.disk path directory <;> rfl

/-- What an upload comes to once both its paths are there. -/
theorem ofParams_put {source : Path} {directory : String} (hkind : params.flags.Selects .put)
    (hsource : params.fields.source = some source)
    (hdirectory : params.fields.destination = some directory) :
    Step.outcome (ofParams params client) =
      (Operation.ofUpload source directory).map fun operation =>
        ⟨params.session, operation⟩ := by
  have hfields : ¬ ActionKind.put.dependency.Lacks params.fields :=
    Dependency.not_lacks_both hsource hdirectory
  rw [ofParams_of_not_lacks hkind rfl hfields client, Operation.resolve_put hsource hdirectory]
  cases Operation.ofUpload source directory <;> rfl

/-- **What a rule says is what comes out.** -/
theorem outcome_of_judged {result : Except Error Request}
    (h : params.Judged client.disk result) : Step.outcome (ofParams params client) = result := by
  cases h with
  | several kind other hset hset' hne =>
    have hselect := Flags.select_of_several hset hset' hne
    rw [(resolve_of_select_error hselect client).2]
    rfl
  | unset hunset =>
    have hselect := Flags.select_of_unset hunset
    rw [(resolve_of_select_error hselect client).2]
    rfl
  | lacking kind hkind hlacks =>
    rw [(resolve_of_lacks hkind hlacks client).2]
    rfl
  | noDirectory path directory hkind hpath hdirectory hnone =>
    rw [ofParams_get hkind hpath hdirectory, Operation.ofDownload_of_not_directory hnone]
    rfl
  | noRemoteName path directory hkind hpath hdirectory hallowed hnone =>
    rw [ofParams_get hkind hpath hdirectory, Operation.ofDownload_of_directory hallowed, hnone]
    rfl
  | occupied path directory name hkind hpath hdirectory hallowed hname hreached =>
    rw [ofParams_get hkind hpath hdirectory, Operation.ofDownload_of_directory hallowed, hname]
    simp only [hreached]
    rfl
  | noLocalName source directory hkind hsource hdirectory hnone =>
    rw [ofParams_put hkind hsource hdirectory, Operation.ofUpload_eq, hnone]
    rfl
  | notText source directory name hkind hsource hdirectory hname hbroken =>
    rw [ofParams_put hkind hsource hdirectory, Operation.ofUpload_eq, hname]
    simp only [hbroken]
    rfl
  | accepted operation hkind hfields hgrants =>
    have haction := Action.ofKind_kind operation.action
    rw [ofParams_of_not_lacks hkind haction hfields client,
      Operation.resolve_of_grants hkind.1 hfields hgrants]
    rfl

/-- Some rule applies to a kind that is selected with all its fields there. -/
theorem exists_judged_of_not_lacks {kind : ActionKind} (disk : Disk)
    (hkind : params.flags.Selects kind) (hfields : ¬ kind.dependency.Lacks params.fields) :
    ∃ result, params.Judged disk result := by
  have hsupplied : ∀ {α : Type} {field : Option α}, field ≠ none → ∃ a, field = some a :=
    fun h => Option.ne_none_iff_exists'.mp h
  cases kind with
  | noOp | userOp | localOp => exact hkind.1.elim
  | shell => exact ⟨_, .accepted .shell hkind hfields trivial⟩
  | ls =>
    obtain ⟨path, hpath⟩ := hsupplied hfields
    exact ⟨_, .accepted (.ls path) hkind hfields hpath⟩
  | mkdir =>
    obtain ⟨path, hpath⟩ := hsupplied hfields
    exact ⟨_, .accepted (.mkdir path) hkind hfields hpath⟩
  | delete =>
    obtain ⟨path, hpath⟩ := hsupplied hfields
    exact ⟨_, .accepted (.delete path) hkind hfields hpath⟩
  | localLs =>
    obtain ⟨path, hpath⟩ := hsupplied hfields
    exact ⟨_, .accepted (.onDisk .ls path) hkind hfields hpath⟩
  | localDelete =>
    obtain ⟨path, hpath⟩ := hsupplied hfields
    exact ⟨_, .accepted (.onDisk .delete path) hkind hfields hpath⟩
  | localMkdir =>
    obtain ⟨path, hpath⟩ := hsupplied hfields
    exact ⟨_, .accepted (.onDisk .mkdir path) hkind hfields hpath⟩
  | createUser =>
    obtain ⟨name, hname, -⟩ := hkind.1
    exact ⟨_, .accepted (.account ⟨.create, params.fields.permission.getD .read, name,
      params.newPassword⟩) hkind hfields ⟨hname, rfl, rfl⟩⟩
  | deleteUser =>
    obtain ⟨name, hname, -⟩ := hkind.1
    exact ⟨_, .accepted (.account ⟨.delete, params.fields.permission.getD .read, name, none⟩)
      hkind hfields ⟨hname, rfl, rfl⟩⟩
  | get =>
    obtain ⟨directory, hdirectory⟩ := hsupplied fun h => hfields (.inl h)
    obtain ⟨path, hpath⟩ := hsupplied fun h => hfields (.inr h)
    cases hallowed : disk.isDirectory directory with
    | false => exact ⟨_, .noDirectory path directory hkind hpath hdirectory hallowed⟩
    | true =>
      cases hname : (Path.ofString path).fileName? with
      | none => exact ⟨_, .noRemoteName path directory hkind hpath hdirectory hallowed hname⟩
      | some name =>
        cases hreached : disk.reaches (directory.join ⟨name⟩) with
        | true =>
          exact ⟨_, .occupied path directory name hkind hpath hdirectory hallowed hname hreached⟩
        | false =>
          exact ⟨_, .accepted (.get path (directory.join ⟨name⟩)) hkind hfields
            ⟨hpath, directory, name, hdirectory, hname, rfl, hallowed, hreached⟩⟩
  | put =>
    obtain ⟨source, hsource⟩ := hsupplied fun h => hfields (.inl h)
    obtain ⟨directory, hdirectory⟩ := hsupplied fun h => hfields (.inr h)
    cases hname : source.fileName? with
    | none => exact ⟨_, .noLocalName source directory hkind hsource hdirectory hname⟩
    | some name =>
      cases htext : Utf8.decode? name with
      | none => exact ⟨_, .notText source directory name hkind hsource hdirectory hname htext⟩
      | some text =>
        exact ⟨_, .accepted (.put source directory) hkind hfields
          ⟨hsource, hdirectory, name, text, hname, htext⟩⟩

/-- **Some rule applies**, whatever the parameters are. -/
theorem exists_judged (params : Params) (disk : Disk) : ∃ result, params.Judged disk result := by
  rcases params.flags.selects_cases with hunset | ⟨kind, other, hset, hset', hne⟩ | ⟨kind, hkind⟩
  · exact ⟨_, .unset hunset⟩
  · exact ⟨_, .several kind other hset hset' hne⟩
  · by_cases hlacks : kind.dependency.Lacks params.fields
    · exact ⟨_, .lacking kind hkind hlacks⟩
    · exact exists_judged_of_not_lacks disk hkind hlacks

/-- **The rules are exact**: what comes out is what the one rule says that applies. -/
theorem outcome_eq_iff_judged {result : Except Error Request} :
    Step.outcome (ofParams params client) = result ↔ params.Judged client.disk result := by
  refine ⟨?_, outcome_of_judged⟩
  rintro rfl
  obtain ⟨result, hjudged⟩ := exists_judged params client.disk
  rwa [outcome_of_judged hjudged]

end Rules

/-! ## 5. Agreement with resolving alone -/

/-- The request fails as the resolving of its action does; otherwise it has that action, if it does
    not fail for a reason of its own. Both leave the client as it is but for one record in the
    log. -/
def AgreesWithResolve (params : Params) (client : Client) : Prop :=
  match params.flags.resolve params.fields client with
  | .error error after => after = client ∧ ofParams params client = .error error client
  | .ok action after =>
    after = { client with log := client.log ++ [resolution action] } ∧
      ((∃ request, ofParams params client = .ok request after ∧ request.action = action) ∨
        ∃ error, ofParams params client = .error error after)

theorem agreesWithResolve (params : Params) (client : Client) :
    AgreesWithResolve params client := by
  unfold AgreesWithResolve
  rcases params.flags.selects_cases with hunset | ⟨kind, other, hset, hset', hne⟩ | ⟨kind, hkind⟩
  · obtain ⟨hresolve, hrequest⟩ :=
      resolve_of_select_error (Flags.select_of_unset hunset) client
    rw [hresolve]
    exact ⟨rfl, hrequest⟩
  · obtain ⟨hresolve, hrequest⟩ :=
      resolve_of_select_error (Flags.select_of_several hset hset' hne) client
    rw [hresolve]
    exact ⟨rfl, hrequest⟩
  · by_cases hlacks : kind.dependency.Lacks params.fields
    · obtain ⟨hresolve, hrequest⟩ := resolve_of_lacks hkind hlacks client
      rw [hresolve]
      exact ⟨rfl, hrequest⟩
    · obtain ⟨action, haction, hkindOf⟩ := Action.exists_ofKind hkind.1
      rw [resolve_of_not_lacks hkind haction hlacks client]
      refine ⟨rfl, ?_⟩
      have hrequest := ofParams_of_not_lacks hkind haction hlacks client
      cases hoperation : Operation.resolve client.disk action (params.flags.accountOf kind)
        params.newPassword params.fields with
      | error error =>
        rw [hoperation] at hrequest
        exact .inr ⟨error, hrequest⟩
      | ok operation =>
        rw [hoperation] at hrequest
        refine .inl ⟨⟨params.session, operation⟩, hrequest, ?_⟩
        exact Operation.action_of_resolve hoperation

/-- **Requests are validated by the rules, and by nothing else.** A state that earlier checks rule
    out is never reached, and resolving the action alone agrees with building the request. -/
theorem ofParams_judged (params : Params) (client : Client) :
    (∀ result, Step.outcome (ofParams params client) = result ↔
        params.Judged client.disk result) ∧
      Step.outcome (ofParams params client) ≠ .error .bug ∧
      AgreesWithResolve params client := by
  refine ⟨fun result => outcome_eq_iff_judged, ?_, agreesWithResolve params client⟩
  intro hbug
  cases outcome_eq_iff_judged.mp hbug

end Request

end RemoteFiles
