import StageGraph.Http.App
import StageGraph.Proofs.Store.Keeping
import StageGraph.Proofs.Text.Quoted

/-!
# What every answer carries

The outermost layer of the service puts the id of the request on whatever it answers:
on what the inner layers give, and on its own answer to what nobody expected.  The layer
that notes the time does so on what comes through it, and a fault that comes through
is not an answer.  So an answer lacks the time exactly when the routes are reached and
fail by a fault that is not announced, or whose announcement cannot be written.

Nothing is assumed about the routes and the store behind them.  Any handler may
stand in their place.
-/

namespace StageGraph

namespace Action

variable {α : Type}

theorem perform_tryCatch (action : Action α) (handle : Fault → Action α) (world : World) :
    perform (tryCatch action handle) world =
      match perform action world with
      | (.ok value, later) => (.ok value, later)
      | (.error fault, later) => perform (handle fault) later := by
  rcases answered : perform action world with ⟨outcome, later⟩
  have run : StateT.run action world = (outcome, later) := answered
  simp only [perform, tryCatch, tryCatchThe, MonadExceptOf.tryCatch, ExceptT.tryCatch,
    ExceptT.run_mk, StateT.run_bind, run]
  cases outcome <;> rfl

/-- An action answers nothing but a fault. -/
def Fails (action : Action α) (world : World) : Prop :=
  ∃ fault, (perform action world).1 = .error fault

theorem fails_map_iff {β : Type} {action : Action α} {form : α → β} {world : World} :
    Fails (do return form (← action)) world ↔ Fails action world := by
  rw [Fails, perform_map, Fails]
  cases (perform action world).1 with
  | error fault => simp [Except.map]
  | ok value => simp [Except.map]

theorem not_fails_pure (value : α) (world : World) : ¬ Fails (pure value) world := by
  rintro ⟨fault, failed⟩
  cases failed

end Action

namespace Http.App

/-! ## New ids -/

theorem hexDigit_injective : ∀ first < 16, ∀ second < 16,
    Text.Quoted.hexDigit first = Text.Quoted.hexDigit second → first = second := by
  decide

theorem hexDigit_ne_dash : ∀ digit < 16, Text.Quoted.hexDigit digit ≠ '-' := by
  decide

theorem mod_eq_of_hexDigits_eq {width first second : Nat}
    (same : Text.Quoted.hexDigits width first = Text.Quoted.hexDigits width second) :
    first % 16 ^ width = second % 16 ^ width := by
  induction width generalizing first second with
  | zero => simp [Nat.mod_one]
  | succ width induction =>
      obtain ⟨leading, last⟩ := List.append_inj' same rfl
      have lastSame := hexDigit_injective _ (Nat.mod_lt _ (by decide)) _
        (Nat.mod_lt _ (by decide)) (List.singleton_inj.mp last)
      have leadingSame := induction leading
      rw [Nat.pow_succ', Nat.mod_mul, Nat.mod_mul, lastSame, leadingSame]

theorem dash_not_mem_hexDigits (width number : Nat) :
    '-' ∉ Text.Quoted.hexDigits width number := by
  intro member
  obtain ⟨digit, small, same⟩ := Text.Quoted.exists_of_mem_hexDigits member
  exact hexDigit_ne_dash digit small same.symm

theorem length_hexDigits (width number : Nat) :
    (Text.Quoted.hexDigits width number).length = width := by
  induction width generalizing number with
  | zero => rfl
  | succ width induction => simp [Text.Quoted.hexDigits, induction]

/-- Without its dashes an id is the digits of its number. -/
theorem filter_dashedId (number : Nat) :
    (dashedId number).toList.filter (· ≠ '-') = Text.Quoted.hexDigits 32 number := by
  have whole := length_hexDigits 32 number
  have undashed := dash_not_mem_hexDigits 32 number
  unfold dashedId
  generalize Text.Quoted.hexDigits 32 number = digits at whole undashed ⊢
  have kept (start width : Nat) : ((digits.drop start).take width).filter (· ≠ '-') =
      (digits.drop start).take width := by
    apply List.filter_eq_self.mpr
    rintro c member
    apply decide_eq_true
    rintro rfl
    exact undashed (List.mem_of_mem_drop (List.mem_of_mem_take member))
  have joined (start width : Nat) :
      (digits.drop start).take width ++ digits.drop (start + width) =
        digits.drop start := by
    rw [← List.drop_drop, List.take_append_drop]
  have last : (digits.drop 20).take 12 = digits.drop 20 :=
    List.take_of_length_le (by simp [whole])
  have dash : "-".toList.filter (· ≠ '-') = [] := by decide
  simp only [Text.join, String.toList_append, String.toList_ofList, List.filter_append,
    kept, dash, List.nil_append, List.append_assoc]
  rw [last, joined 16 4, joined 12 4, joined 8 4, joined 0 8, List.drop_zero]

/-- Numbers that fit into an id have different ids. -/
theorem dashedId_ne {first second : Nat} (fits : second < 16 ^ 32) (less : first < second) :
    dashedId first ≠ dashedId second := by
  intro same
  have digits := congrArg (fun id => id.toList.filter (· ≠ '-')) same
  simp only [filter_dashedId] at digits
  have numbers := mod_eq_of_hexDigits_eq digits
  rw [Nat.mod_eq_of_lt (less.trans fits), Nat.mod_eq_of_lt fits] at numbers
  exact absurd numbers (Nat.ne_of_lt less)

/-- The next id of the supply, which has not been given before as long as the supply
lasts. -/
structure IsNewId (world : World) (id : String) : Prop where
  next : id = dashedId (world.issued + 1)
  fresh : world.issued + 1 < 16 ^ 32 → ∀ earlier ≤ world.issued, dashedId earlier ≠ id

theorem isNewId_next (world : World) : IsNewId world (dashedId (world.issued + 1)) where
  next := rfl
  fresh fits _ before := dashedId_ne fits (Nat.lt_succ_of_le before)

/-! ## The layers -/

/-- A request by which a page of another origin asks what it may send. -/
structure IsPreflight (request : Request) : Prop where
  origin : (request.header? "origin").isSome = true
  method : request.method = "OPTIONS"
  asks : (request.header? "access-control-request-method").isSome = true

/-- A fault to which there is no answer of the service's own. -/
def Unanswered (call : Call) (fault : Fault) : Prop :=
  fault.isAnnounced = true → ∃ other, announcement call fault = .error other

variable {inner : Handler} {call : Call} {world : World}

theorem fails_announcing_iff :
    (announcing inner call).Fails world ↔
      ∃ fault, ((inner call).perform world).1 = .error fault ∧ Unanswered call fault := by
  rw [Action.Fails, announcing, Action.perform_tryCatch]
  rcases (inner call).perform world with ⟨fault | response, later⟩
  · by_cases announced : fault.isAnnounced = true
    · simp [announced, Unanswered]
    · simp [announced, Unanswered]
  · simp

theorem fails_guarding_iff {hosts : List String} :
    (guarding hosts inner call).Fails world ↔
      Host.judge hosts call.request.host = .admitted ∧ (inner call).Fails world := by
  simp only [guarding]
  cases Host.judge hosts call.request.host with
  | admitted => simp
  | moved => simp [Action.not_fails_pure]
  | refused => simp [Action.not_fails_pure]

theorem fails_sharing_iff {origins : List String} :
    (sharing origins inner call).Fails world ↔
      ¬ IsPreflight call.request ∧ (inner call).Fails world := by
  unfold sharing
  split
  · rename_i sameOrigin
    have passes : ¬ IsPreflight call.request := by
      rintro ⟨origin, _, _⟩
      simp [sameOrigin] at origin
    simp [passes]
  · rename_i origin named
    split
    · rename_i asked asks
      have asking : IsPreflight call.request :=
        ⟨by simp [named], asked, by simp [asks]⟩
      simp [asking, Action.not_fails_pure]
    · rename_i other
      have passes : ¬ IsPreflight call.request := by
        rintro ⟨_, method, asks⟩
        obtain ⟨asked, asks⟩ := Option.isSome_iff_exists.mp asks
        exact other asked method asks
      rw [Action.fails_map_iff]
      simp [passes]

theorem fails_timing_iff :
    (timing inner call).Fails world ↔ (inner call).Fails world :=
  Action.fails_map_iff

/-- What comes through the layer that notes the time carries it. -/
theorem header?_of_timing {response : Response}
    (answered : ((timing inner call).perform world).1 = .ok response) :
    (response.header? timeHeader).isSome = true := by
  rw [timing, Action.perform_map] at answered
  obtain ⟨given, _, rfl⟩ := Checked.map_eq_ok answered
  simp [Response.header?, Response.setHeader, Ledger.get?_put]

/-- The layers below the outermost, around any handler. -/
def layered (app : App) (inner : Handler) : Handler :=
  timing (sharing app.settings.access.origins
    (guarding app.settings.access.hosts (announcing inner)))

/-- Answer a request by any handler behind the layers. -/
def serveBy (app : App) (inner : Handler) (request : Request) : StateM World Response := do
  let call : Call := { id := ← identify request, request := request }
  match ← (app.layered inner call).run with
  | .ok response => return response.setHeader idHeader call.id
  | .error _ => return (unexpected call).setHeader idHeader call.id

/-! ## What is on an answer -/

/-- A request with its id, and the world in which it is passed on. -/
def received (request : Request) (world : World) : Call × World :=
  let identified := (identify request).run world
  ({ id := identified.1, request := request }, identified.2)

/-- What any handler behind the layers answers to a request. -/
def answerBy (app : App) (inner : Handler) (request : Request) (world : World) : Response :=
  ((app.serveBy inner request).run world).1

theorem answerBy_eq (app : App) (inner : Handler) (request : Request) (world : World) :
    app.answerBy inner request world =
      match ((app.layered inner (received request world).1).perform
          (received request world).2).1 with
      | .ok response => response.setHeader idHeader (received request world).1.id
      | .error _ =>
        (unexpected (received request world).1).setHeader idHeader
          (received request world).1.id := by
  have run : app.answerBy inner request world =
      (StateT.run
        (match ((app.layered inner (received request world).1).perform
            (received request world).2).1 with
          | .ok response =>
            (return response.setHeader idHeader (received request world).1.id :
              StateM World Response)
          | .error _ =>
            return (unexpected (received request world).1).setHeader idHeader
              (received request world).1.id)
        ((app.layered inner (received request world).1).perform
          (received request world).2).2).1 := rfl
  rw [run]
  split <;> rfl

/-- A request has its own id, or the next one when it brings none. -/
theorem id_received (request : Request) (world : World) :
    (received request world).1.id =
      if (request.header? idHeader).getD "" = "" then dashedId (world.issued + 1)
      else (request.header? idHeader).getD "" := by
  by_cases empty : (request.header? idHeader).getD "" = ""
  · simp only [received, identify, if_pos empty]
    rfl
  · simp only [received, identify, if_neg empty]
    rfl

/-- The answer carries the id of the request. -/
structure Traced (request : Request) (world : World) (response : Response) : Prop where
  own : ∀ id, request.header? idHeader = some id → id ≠ "" →
    response.header? idHeader = some id
  new : (∀ id, request.header? idHeader = some id → id = "") →
    ∃ id, response.header? idHeader = some id ∧ IsNewId world id

/-- The routes are reached, and they fail in a way that has no answer of its own. -/
structure Breaks (app : App) (inner : Handler) (call : Call) (world : World) : Prop where
  passes : ¬ IsPreflight call.request
  admitted : Host.judge app.settings.access.hosts call.request.host = .admitted
  fails : ∃ fault, ((inner call).perform world).1 = .error fault ∧ Unanswered call fault

theorem fails_layered_iff (app : App) :
    (app.layered inner call).Fails world ↔ app.Breaks inner call world := by
  rw [layered, fails_timing_iff, fails_sharing_iff, fails_guarding_iff,
    fails_announcing_iff]
  constructor
  · rintro ⟨passes, admitted, fails⟩
    exact ⟨passes, admitted, fails⟩
  · rintro ⟨passes, admitted, fails⟩
    exact ⟨passes, admitted, fails⟩

theorem header?_setHeader_id (response : Response) (id : String) :
    (response.setHeader idHeader id).header? timeHeader = response.header? timeHeader := by
  have different : idHeader ≠ timeHeader := by decide
  simp [Response.header?, Response.setHeader, Ledger.get?_put, different]

theorem header?_answerBy (app : App) (inner : Handler) (request : Request) (world : World) :
    (app.answerBy inner request world).header? idHeader =
      some (received request world).1.id := by
  rw [answerBy_eq]
  split <;> simp [Response.header?, Response.setHeader, Ledger.get?_put]

theorem traced_answerBy (app : App) (inner : Handler) (request : Request) (world : World) :
    Traced request world (app.answerBy inner request world) := by
  have carried := header?_answerBy app inner request world
  rw [id_received] at carried
  constructor
  · intro id brought inhabited
    simpa [brought, inhabited] using carried
  · intro none
    have empty : (request.header? idHeader).getD "" = "" := by
      cases brought : request.header? idHeader with
      | none => rfl
      | some id => exact none id brought
    rw [if_pos empty] at carried
    exact ⟨_, carried, isNewId_next world⟩

theorem timed_answerBy_iff (app : App) (inner : Handler) (request : Request)
    (world : World) :
    ((app.answerBy inner request world).header? timeHeader).isSome = true ↔
      ¬ app.Breaks inner (received request world).1 (received request world).2 := by
  rw [answerBy_eq, ← fails_layered_iff, Action.Fails]
  split
  · rename_i response answered
    have timed := header?_of_timing answered
    rw [header?_setHeader_id]
    simp [timed, answered]
  · rename_i fault failed
    rw [header?_setHeader_id]
    simp [failed, unexpected, Response.json, Response.header?, Ledger.get?, timeHeader]

/-- Every answer carries the id of its request, whatever stands behind the layers, and
the time exactly when nothing breaks there. -/
theorem serve_traced_and_timed_iff (app : App) :
    app.serve = app.serveBy app.dispatch ∧
      ∀ inner request world,
        Traced request world (app.answerBy inner request world) ∧
          (((app.answerBy inner request world).header? timeHeader).isSome = true ↔
            ¬ app.Breaks inner (received request world).1 (received request world).2) := by
  refine ⟨rfl, ?_⟩
  intro inner request world
  exact ⟨traced_answerBy app inner request world,
    timed_answerBy_iff app inner request world⟩

/-- A request for the list of projects. -/
def listRequest : Request :=
  { method := "GET"
    target := { path := "/api/projects/" }
    headers := [("host", "testserver"), ("x-request-id", "req")]
    server := "testserver" }

/-- When the store is out of order, the list of projects is answered without a time. -/
theorem list_out_of_order_not_timed :
    ∃ response world,
      ((App.serve { settings := Settings.defaults .testing } listRequest).run
        { store := .outOfOrder .broken, clock := Clock.steady 63882000000000000 1 }) =
          (response, world) ∧
      response.status = 500 ∧ response.header? idHeader = some "req" ∧
        response.header? timeHeader = none := by
  refine ⟨_, _, rfl, ?_⟩
  cbv

end Http.App

end StageGraph
