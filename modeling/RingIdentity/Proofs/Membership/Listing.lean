import RingIdentity.Proofs.Membership.Alive
/-! # Listing every instance, page by page

The instance strategy lists every instance its account sees.  One client is opened, and the
listing is read a page at a time: the first page is asked for with no token, each later one with
the token the page before carried, and the listing ends at a page that carries no token.  The
loop is a machine over `ScanState`: `scanStep` reads one page, and `scanPages` runs it for at
most a given number of pages, the bound the connector sets; a listing still going after that many
pages answers no instances but a failure of its own (`scanPages_of_reads`).

A cloud that answers each token with a fixed page, or a fault, lays its pages out in a chain.
`Reads answer t ps t'` says that, asked from `t`, it answers the pages `ps` in turn, each carrying
the token the next is asked with, and that the last carries `t'`; the chain stops at a token
whose answer is a fault or a page with no token (`Stops`).  Every lemma follows from the three
ways one step can go (`scanStep_page`, `scanStep_last`, `scanStep_fault`) and from one run lemma
(`scanPages_reads`), by induction along the chain: the listing makes exactly one call per page,
with the chain's tokens in order, and collects the live instances of every page in order; a
fault ends it with a failure that keeps nothing read.  In particular the loop stops exactly when
the chain does (`stopped_scanPages_iff`): it runs forever on a chain that never stops.

Main statement: `CloudMembership.instanceScan_pages`.
-/
namespace RingIdentity

namespace ScanState

/-- Whether a listing has stopped: its last page was read, or a page failed. -/
def stopped : ScanState → Bool
  | .reading .. => false
  | _ => true

/-- What a listing of an account answers: the live instances read once the last page is in, the
failure of a page, or, for a listing still going, that it did not end. -/
def live (a : Account) : ScanState → Except MembershipError (List String)
  | .reading _ _ pages => .error (.unfinishedListing a pages)
  | .done ids _ => .ok ids
  | .failed e => .error e

end ScanState

namespace CloudMembership

/-! ## Chains of pages -/

/-- `Reads answer t ps t'`: asked from token `t`, a cloud answers the pages `ps` in turn, each
carrying the token that the next is asked with, and `t'` is the token the last one carries (or
`t` itself when there is none). -/
inductive Reads (answer : Option String → Except CloudError InstancePage) :
    Option String → List InstancePage → Option String → Prop where
  | nil (t : Option String) : Reads answer t [] t
  | page {t : Option String} {t' : String} {t'' : Option String} {p : InstancePage}
      {ps : List InstancePage} :
      answer t = .ok p → p.nextToken = some t' → Reads answer (some t') ps t'' →
      Reads answer t (p :: ps) t''

/-- A chain stops at a token answered with a fault or with a page that carries no token. -/
def Stops (answer : Option String → Except CloudError InstancePage) (t : Option String) : Prop :=
  match answer t with
  | .error _ => True
  | .ok p => p.nextToken = none

/-- The tokens a listing asks with along some pages: `t` for the first, then the token each page
carries for the next. -/
def tokensOf : Option String → List InstancePage → List (Option String)
  | _, [] => []
  | t, p :: ps => t :: tokensOf p.nextToken ps

theorem tokensOf_snoc {answer : Option String → Except CloudError InstancePage}
    {t t' : Option String} {ps : List InstancePage} (h : Reads answer t ps t') (p : InstancePage) :
    tokensOf t (ps ++ [p]) = tokensOf t ps ++ [t'] := by
  induction h with
  | nil t => rfl
  | page _ hnext _ ih => simp [tokensOf, hnext, ih]

/-- A chain either goes on for `n` more pages or stops before. -/
theorem reads_or_stops (answer : Option String → Except CloudError InstancePage) (n : Nat)
    (t : Option String) :
    (∃ ps t', ps.length = n ∧ Reads answer t ps t') ∨
      ∃ ps t', ps.length < n ∧ Reads answer t ps t' ∧ Stops answer t' := by
  induction n generalizing t with
  | zero => exact .inl ⟨[], t, rfl, .nil t⟩
  | succ n ih =>
    -- the first page decides: a fault or a last page stops the chain here
    cases ha : answer t with
    | error e => exact .inr ⟨[], t, Nat.succ_pos n, .nil t, by simp [Stops, ha]⟩
    | ok p =>
      cases hn : p.nextToken with
      | none => exact .inr ⟨[], t, Nat.succ_pos n, .nil t, by simp [Stops, ha, hn]⟩
      | some t' =>
        rcases ih (some t') with ⟨ps, t'', hlen, hr⟩ | ⟨ps, t'', hlen, hr, hs⟩
        · exact .inl ⟨p :: ps, t'', by simp [hlen], .page ha hn hr⟩
        · exact .inr ⟨p :: ps, t'', by simp [hlen], .page ha hn hr, hs⟩

/-! ## One page at a time -/

section Steps

variable {m : Type → Type} [Monad m] [LawfulMonad m] {client : CloudClient m}
  {record : Option String → m Unit} {answer : Option String → Except CloudError InstancePage}

/-- The client of a cloud that records each call and answers each token with a fixed page or
fault. -/
def Answers (client : CloudClient m) (record : Option String → m Unit)
    (answer : Option String → Except CloudError InstancePage) : Prop :=
  ∀ t, client.describeInstances t = record t >>= fun _ => pure (answer t)

variable (hc : Answers client record answer) (a : Account)
include hc

theorem scanStep_page {t : Option String} {t' : String} {p : InstancePage} (ids : List String)
    (k : Nat) (hp : answer t = .ok p) (hn : p.nextToken = some t') :
    scanStep client a (.reading t ids k) =
      record t >>= fun _ => pure (.reading (some t') (ids ++ p.liveIds) (k + 1)) := by
  simp [scanStep, hc t, hp, hn]

theorem scanStep_last {t : Option String} {p : InstancePage} (ids : List String) (k : Nat)
    (hp : answer t = .ok p) (hn : p.nextToken = none) :
    scanStep client a (.reading t ids k) =
      record t >>= fun _ => pure (.done (ids ++ p.liveIds) (k + 1)) := by
  simp [scanStep, hc t, hp, hn]

theorem scanStep_fault {t : Option String} {e : CloudError} (ids : List String) (k : Nat)
    (he : answer t = .error e) :
    scanStep client a (.reading t ids k) =
      record t >>= fun _ => pure (.failed (.cloud "describe_instances" a e)) := by
  simp [scanStep, hc t, he]

omit hc in
/-- A listing that has stopped stays as it is. -/
theorem scanPages_stopped {s : ScanState} (hs : s.stopped = true) (n : Nat) :
    scanPages client a n s = pure s := by
  induction n with
  | zero => rfl
  | succ n ih =>
    have hstep : scanStep client a s = pure s := by
      cases s with
      | reading => simp [ScanState.stopped] at hs
      | done => rfl
      | failed => rfl
    simp [scanPages, hstep, ih]

/-- **Run lemma.**  Along a chain, the listing asks once for each page, with the chain's tokens
in order, and adds the live instances of each page. -/
theorem scanPages_reads {t t' : Option String} {ps : List InstancePage}
    (h : Reads answer t ps t') (n : Nat) (ids : List String) (k : Nat) :
    scanPages client a (ps.length + n) (.reading t ids k) =
      forM (tokensOf t ps) record >>= fun _ =>
        scanPages client a n (.reading t' (ids ++ ps.flatMap InstancePage.liveIds)
          (k + ps.length)) := by
  induction h generalizing ids k with
  | nil => simp [tokensOf]
  | @page t t' t'' p ps hp hn _ ih =>
    rw [List.length_cons, Nat.add_right_comm, scanPages, scanStep_page hc a ids k hp hn,
      bind_assoc]
    simp only [pure_bind, ih, tokensOf, hn, List.forM_cons, bind_assoc, List.flatMap_cons,
      List.append_assoc, Nat.add_assoc, Nat.add_comm 1]

/-- A chain that ends: the listing asks for every page and answers the live instances of all. -/
theorem scanPages_of_last {ps : List InstancePage} {t : Option String} {p : InstancePage}
    (h : Reads answer none ps t) (hp : answer t = .ok p) (hn : p.nextToken = none) {n : Nat}
    (hbound : ps.length < n) :
    scanPages client a n .start =
      forM (tokensOf none (ps ++ [p])) record >>= fun _ =>
        pure (.done ((ps ++ [p]).flatMap InstancePage.liveIds) (ps ++ [p]).length) := by
  obtain ⟨n, rfl⟩ := Nat.exists_eq_add_of_lt hbound
  rw [Nat.add_assoc, ScanState.start, scanPages_reads hc a h]
  simp [tokensOf_snoc h, scanPages, scanStep_last hc a _ _ hp hn, List.forM_append,
    scanPages_stopped a (s := .done _ _) rfl]

/-- A chain that fails: the listing asks up to the failing page and answers the failure. -/
theorem scanPages_of_fault {ps : List InstancePage} {t : Option String} {e : CloudError}
    (h : Reads answer none ps t) (he : answer t = .error e) {n : Nat} (hbound : ps.length < n) :
    scanPages client a n .start =
      forM (tokensOf none ps ++ [t]) record >>= fun _ =>
        pure (.failed (.cloud "describe_instances" a e)) := by
  obtain ⟨n, rfl⟩ := Nat.exists_eq_add_of_lt hbound
  rw [Nat.add_assoc, ScanState.start, scanPages_reads hc a h]
  simp [scanPages, scanStep_fault hc a _ _ he, List.forM_append,
    scanPages_stopped a (s := .failed _) rfl]

/-- A chain that goes on past the bound: the listing asks for as many pages as the bound allows
and is still reading, so it answers that it did not end. -/
theorem scanPages_of_reads {ps : List InstancePage} {t : Option String}
    (h : Reads answer none ps t) :
    scanPages client a ps.length .start =
      forM (tokensOf none ps) record >>= fun _ =>
        pure (.reading t (ps.flatMap InstancePage.liveIds) ps.length) := by
  simpa [ScanState.start, scanPages] using scanPages_reads hc a h 0 [] 0

end Steps

/-! ## When the listing stops -/

/-- A client whose answers are plain values answers as the chain says, recording nothing. -/
theorem answers_of_pure (client : CloudClient Id) :
    Answers client (fun _ => pure ()) client.describeInstances := fun _ => rfl

/-- **Termination.**  With a bound of `n` pages, the listing stops exactly when the chain stops
before `n` pages. -/
theorem stopped_scanPages_iff (client : CloudClient Id) (a : Account) (n : Nat) :
    (scanPages client a n .start).stopped = true ↔
      ∃ ps t, ps.length < n ∧ Reads client.describeInstances none ps t ∧
        Stops client.describeInstances t := by
  have hc := answers_of_pure client
  constructor
  · intro hstop
    rcases reads_or_stops client.describeInstances n none with ⟨ps, t, rfl, h⟩ | hs
    · -- a chain that goes on for `n` pages leaves the listing reading
      rw [scanPages_of_reads hc a h] at hstop
      simp [ScanState.stopped] at hstop
    · exact hs
  · rintro ⟨ps, t, hlen, h, hs⟩
    unfold Stops at hs
    split at hs
    · rename_i e he
      rw [scanPages_of_fault hc a h he hlen]
      rfl
    · rename_i p hp
      rw [scanPages_of_last hc a h hp hs hlen]
      rfl

/-- The listing stops for some bound exactly when the chain stops: on a chain that never stops
it reads on for ever. -/
theorem exists_stopped_scanPages_iff (client : CloudClient Id) (a : Account) :
    (∃ n, (scanPages client a n .start).stopped = true) ↔
      ∃ ps t, Reads client.describeInstances none ps t ∧ Stops client.describeInstances t := by
  constructor
  · rintro ⟨n, hn⟩
    obtain ⟨ps, t, -, h, hs⟩ := (stopped_scanPages_iff client a n).mp hn
    exact ⟨ps, t, h, hs⟩
  · rintro ⟨ps, t, h, hs⟩
    exact ⟨ps.length + 1, (stopped_scanPages_iff client a _).mpr ⟨ps, t, Nat.lt_succ_self _, h, hs⟩⟩

/-! ## The strategy -/

variable {m : Type → Type} [Monad m] [LawfulMonad m]

/-- The instance strategy opens one client with the scope's credentials and lists with it,
within the connector's bound. -/
theorem strategyLive_instances (conn : CloudConnector m) (s : AccountScope) :
    strategyLive conn (fun _ => pure ()) .instances s =
      conn.compute s.credentials s.info.region >>= fun client =>
        conn.pageBound >>= fun n =>
          scanPages client s.account n .start >>= fun st => pure (st.live s.account) := by
  simp only [strategyLive]
  refine bind_congr fun client => bind_congr fun n => bind_congr fun st => ?_
  cases st <;> simp [ScanState.live]

/-- **Listing every instance.**  For every scope of an account and every cloud: the strategy
opens one client with the scope's credentials and lists with it, within the connector's bound.
Take a client that records each call and answers each token with a fixed page or fault.  The
listing asks first with no token, then with the token the page before carried, once per page.
When the chain ends within the bound, the listing answers the live instances of every page, in
page, reservation and instance order.  When a call fails first, it answers that failure as a
failed `describe_instances` of the account, keeping nothing read.  When the chain goes on for
all the pages the bound allows, the listing asks for each of them and answers that it did not
end, keeping nothing read.  And for a client of plain answers, the listing stops for some bound
exactly when the chain stops: on a chain that never stops it reads on for ever. -/
theorem instanceScan_pages (conn : CloudConnector m) (s : AccountScope) :
    let a := s.account
    strategyLive conn (fun _ => pure ()) .instances s =
        (conn.compute s.credentials s.info.region >>= fun client =>
          conn.pageBound >>= fun n =>
            scanPages client a n .start >>= fun st => pure (st.live a)) ∧
      (∀ (client : CloudClient m) record answer, Answers client record answer →
        ∀ ps t n, Reads answer none ps t → ps.length < n →
          (∀ p, answer t = .ok p → p.nextToken = none →
            scanPages client a n .start =
              forM (tokensOf none (ps ++ [p])) record >>= fun _ =>
                pure (.done ((ps ++ [p]).flatMap InstancePage.liveIds) (ps ++ [p]).length)) ∧
          (∀ e, answer t = .error e →
            scanPages client a n .start =
              forM (tokensOf none ps ++ [t]) record >>= fun _ =>
                pure (.failed (.cloud "describe_instances" a e)))) ∧
      (∀ (client : CloudClient m) record answer, Answers client record answer →
        ∀ ps t, Reads answer none ps t →
          (scanPages client a ps.length .start >>= fun st => pure (st.live a)) =
            forM (tokensOf none ps) record >>= fun _ =>
              pure (.error (.unfinishedListing a ps.length))) ∧
      (∀ client : CloudClient Id,
        (∃ n, (scanPages client a n .start).stopped = true) ↔
          ∃ ps t, Reads client.describeInstances none ps t ∧ Stops client.describeInstances t) := by
  intro a
  refine ⟨strategyLive_instances conn s,
    fun _ _ _ hc _ _ _ h hlen =>
      ⟨fun _ hp hn => scanPages_of_last hc a h hp hn hlen,
        fun _ he => scanPages_of_fault hc a h he hlen⟩,
    fun _ _ _ hc _ _ h => ?_, fun client => exists_stopped_scanPages_iff client a⟩
  -- the listing is still reading after the bound, and a listing still reading has not ended
  rw [scanPages_of_reads hc a h, bind_assoc]
  simp only [pure_bind, ScanState.live]

/-- The pages of a listing in three pages, tokens `page-1` and `page-2`. -/
theorem instanceScan_pages_of_three_pages :
    let p₁ : InstancePage := ⟨[[⟨"i-1", "running"⟩, ⟨"i-2", "terminated"⟩]], some "page-1"⟩
    let p₂ : InstancePage := ⟨[[⟨"i-3", "pending"⟩]], some "page-2"⟩
    let p₃ : InstancePage := ⟨[[⟨"i-4", "shutting-down"⟩, ⟨"i-5", "running"⟩]], none⟩
    let answer : Option String → Except CloudError InstancePage := fun t =>
      if t = none then .ok p₁ else if t = some "page-1" then .ok p₂ else .ok p₃
    let record : Option String → StateM (List (Option String)) Unit := fun t =>
      modify (· ++ [t])
    let client : CloudClient (StateM (List (Option String))) :=
      { describeAutoScalingGroups := fun _ => pure (.ok [])
        describeInstances := fun t => record t >>= fun _ => pure (answer t)
        describeSecurityGroups := fun _ => pure (.ok [])
        authorizeIngress := fun _ _ => pure (.ok ())
        revokeIngress := fun _ _ => pure (.ok ()) }
    let conn : CloudConnector (StateM (List (Option String))) :=
      { autoscaling := fun _ _ => pure client, compute := fun _ _ => pure client,
        pageBound := pure 3 }
    let s : AccountScope :=
      { account := .own, credentials := ⟨"own-key", "own-secret", none⟩,
        info := InstanceInfo.make "i-local" "us-east-1" "us-east-1a", settings := {} }
    Answers client record answer ∧
      Reads answer none [p₁, p₂] (some "page-2") ∧ [p₁, p₂].length < 3 ∧
      answer (some "page-2") = .ok p₃ ∧ p₃.nextToken = none ∧
      (strategyLive conn (fun _ => pure ()) .instances s).run [] =
        (.ok ["i-1", "i-3", "i-5"], [none, some "page-1", some "page-2"]) := by
  intro p₁ p₂ p₃ answer record client conn s
  have hc : Answers client record answer := fun _ => rfl
  have h₁ : answer none = .ok p₁ := rfl
  have h₂ : answer (some "page-1") = .ok p₂ := by decide
  have h₃ : answer (some "page-2") = .ok p₃ := by decide
  have hreads : Reads answer none [p₁, p₂] (some "page-2") := .page h₁ rfl (.page h₂ rfl (.nil _))
  have hlen : [p₁, p₂].length < 3 := by decide
  have laws := instanceScan_pages conn s
  have hlast := (laws.2.1 client record answer hc [p₁, p₂] (some "page-2") 3 hreads hlen).1 p₃
    h₃ rfl
  refine ⟨hc, hreads, hlen, h₃, rfl, ?_⟩
  -- the connector opens `client` and bounds the listing by three pages
  rw [laws.1]
  simp only [conn, pure_bind, hlast]
  rfl

end CloudMembership

end RingIdentity
