import StageGraph.Proofs.Categories
import StageGraph.Proofs.Http.Tracing
import StageGraph.Proofs.Script.Parts
import StageGraph.Proofs.Text.Trimming

/-!
# Exported notebooks

An answer comes through the layers as it is, but for the headers that the layers set.  So
an order for a notebook is answered with the notebook as a file that is named after the
project, as long as a header can hold the name.  The name of a project may have any
characters, though, and a header has room for an octet each.  Of other names nothing but
the general answer to what nobody expected comes back.
-/

namespace StageGraph

namespace Compiler

theorem notebook_eq_ok {catalog : Catalog} (givesCode : catalog.GivesCode) (flow : Flow)
    (name : Option String) (time : Civil) :
    notebook catalog flow name time = .ok (Notebook.ofFlow catalog flow name time) := by
  rw [notebook, makeNotebook_withCategories, Notebook.make, Script.obstacle?_eq_none givesCode]
  rfl

end Compiler

namespace Http

/-! ## What headers have room for -/

theorem fitsHeader_iff {text : String} :
    fitsHeader text = true ↔ ∀ c ∈ text.toList, c.toNat < 256 := by
  simp [fitsHeader]

theorem fitsHeader_append (first second : String) :
    fitsHeader (first ++ second) = (fitsHeader first && fitsHeader second) := by
  rw [fitsHeader, String.toList_append, List.all_append]
  rfl

theorem toNat_lt_of_mem_lowerChar {c mapped : Char} (small : c.toNat < 256)
    (member : mapped ∈ Text.lowerChar c) : mapped.toNat < 256 := by
  have all : ((List.range 256).all fun code =>
      (Text.lowerChar (Char.ofNat code)).all fun mapped => mapped.toNat < 256) = true := by
    decide +kernel
  have images := List.all_eq_true.mp all c.toNat (List.mem_range.mpr small)
  rw [Char.ofNat_toNat] at images
  exact of_decide_eq_true (List.all_eq_true.mp images mapped member)

theorem toNat_lt_of_mem_lowerAfter {before cs : List Char} (small : ∀ c ∈ cs, c.toNat < 256) :
    ∀ mapped ∈ Text.lowerAfter before cs, mapped.toNat < 256 := by
  induction cs generalizing before with
  | nil => simp [Text.lowerAfter]
  | cons c rest induction =>
      obtain ⟨first, later⟩ := List.forall_mem_cons.mp small
      -- Only a capital sigma looks at what stands before it.
      have notSigma : c ≠ 'Σ' := by
        rintro rfl
        exact absurd first (by decide)
      intro mapped member
      rw [Text.lowerAfter, if_neg notSigma] at member
      rcases List.mem_append.mp member with here | there
      · exact toNat_lt_of_mem_lowerChar first here
      · exact induction later mapped there

theorem mem_underscored {cs : List Char} {c : Char} (member : c ∈ Notebook.underscored cs) :
    c = '_' ∨ c ∈ cs := by
  fun_induction Notebook.underscored cs with
  | case1 => exact .inr member
  | case2 first next rest _ _ induction =>
      exact (induction member).imp_right (List.mem_cons_of_mem _)
  | case3 first next rest _ _ induction =>
      rcases List.mem_cons.mp member with mark | later
      · exact .inl mark
      · exact (induction later).imp_right (List.mem_cons_of_mem _)
  | case4 first _ => exact .inl (List.mem_singleton.mp member)
  | case5 first rest _ induction =>
      rcases List.mem_cons.mp member with here | later
      · exact .inr (here ▸ List.mem_cons_self)
      · exact (induction later).imp_right (List.mem_cons_of_mem _)

theorem mem_of_mem_trim {cs : List Char} {c : Char} (member : c ∈ Text.trim cs) : c ∈ cs :=
  (List.dropWhile_sublist _).subset (Text.mem_of_mem_trimEnd member)

def stem (name : String) : String :=
  Text.lower (String.ofList (Notebook.underscored (Text.trim name.toList)))

theorem fitsHeader_stem {name : String} (fits : fitsHeader name = true) :
    fitsHeader (stem name) = true := by
  rw [fitsHeader_iff] at fits ⊢
  rw [stem, Text.lower, String.toList_ofList, String.toList_ofList]
  apply toNat_lt_of_mem_lowerAfter
  intro c member
  rcases mem_underscored member with rfl | member
  · decide
  · exact fits c (mem_of_mem_trim member)

/-- The file of a name whose characters fit into a header has a name that fits too. -/
theorem fitsHeader_filename {name : String} (fits : fitsHeader name = true) :
    fitsHeader (Notebook.filename (some name)) = true := by
  obtain ⟨title, titleFits, shape⟩ : ∃ title, fitsHeader title = true ∧
      Notebook.filename (some name) =
        (if stem title = "" then "pipeline" else stem title) ++ ".ipynb" := by
    refine ⟨if name = "" then Notebook.defaultName else name, ?_, rfl⟩
    split
    · cbv
    · exact fits
  rw [shape, fitsHeader_append, Bool.and_eq_true]
  constructor
  · split
    · cbv
    · exact fitsHeader_stem titleFits
  · cbv

theorem Response.header?_setHeader (response : Response) (name value other : String) :
    (response.setHeader name value).header? other =
      if name = other then some value else response.header? other :=
  Ledger.get?_put _ _ _ _

/-- A response says what another one says, but for some headers. -/
structure Response.Repeats (names : List String) (given response : Response) : Prop where
  status : response.status = given.status
  body : response.body = given.body
  header : ∀ name ∉ names, response.header? name = given.header? name

namespace Response.Repeats

variable {names : List String} {given response : Response}

theorem refl (names : List String) (given : Response) : Repeats names given given :=
  ⟨rfl, rfl, fun _ _ => rfl⟩

theorem setHeader (repeats : Repeats names given response) {name : String}
    (member : name ∈ names) (value : String) :
    Repeats names given (response.setHeader name value) where
  status := repeats.status
  body := repeats.body
  header := by
    intro other absent
    have different : name ≠ other := by
      rintro rfl
      exact absent member
    rw [header?_setHeader, if_neg different]
    exact repeats.header other absent

end Response.Repeats

namespace App

/-! ## What comes through the layers -/

/-- The headers that the layers set. -/
def layerHeaders : List String :=
  [timeHeader, idHeader, "access-control-allow-credentials", "access-control-allow-origin"]

variable {inner : Handler} {call : Call} {world : World} {given : Response}

theorem repeats_share (origins : List String) (origin : String) (given : Response) :
    given.Repeats layerHeaders (CrossOrigin.share origins origin given) := by
  have credentials := (Response.Repeats.refl layerHeaders given).setHeader
    (by decide : "access-control-allow-credentials" ∈ layerHeaders) "true"
  unfold CrossOrigin.share
  split
  · exact credentials.setHeader (by decide) origin
  · exact credentials

theorem exists_sharing (origins : List String) (passes : ¬ IsPreflight call.request)
    (answered : ((inner call).perform world).1 = .ok given) :
    ∃ response, ((sharing origins inner call).perform world).1 = .ok response ∧
      given.Repeats layerHeaders response := by
  unfold sharing
  split
  · exact ⟨given, answered, .refl _ given⟩
  · rename_i origin named
    split
    · rename_i asked asks
      exact (passes ⟨by simp [named], asked, by simp [asks]⟩).elim
    · rw [Action.perform_map, answered]
      exact ⟨_, rfl, repeats_share origins origin given⟩

theorem exists_layered (app : App) (call : Call) (passes : ¬ IsPreflight call.request)
    (admitted : Host.judge app.settings.access.hosts call.request.host = .admitted)
    (answered : ((inner call).perform world).1 = .ok given) :
    ∃ response, ((app.layered inner call).perform world).1 = .ok response ∧
      given.Repeats layerHeaders response := by
  have announced : ((announcing inner call).perform world).1 = .ok given := by
    rcases performed : (inner call).perform world with ⟨outcome, later⟩
    obtain rfl : outcome = .ok given := by simpa [performed] using answered
    rw [announcing, Action.perform_tryCatch, performed]
  have guarded : ((guarding app.settings.access.hosts (announcing inner) call).perform world).1 =
      .ok given := by
    simp only [guarding, admitted]
    exact announced
  obtain ⟨shared, done, repeats⟩ := exists_sharing app.settings.access.origins passes guarded
  rw [layered, timing, Action.perform_map, done]
  exact ⟨_, rfl, repeats.setHeader (by decide) _⟩

/-- What is answered behind the layers is answered to the client. -/
theorem repeats_answerBy {app : App} {request : Request} (passes : ¬ IsPreflight request)
    (admitted : Host.judge app.settings.access.hosts request.host = .admitted)
    (answered : ((inner (received request world).1).perform (received request world).2).1 =
      .ok given) : given.Repeats layerHeaders (app.answerBy inner request world) := by
  obtain ⟨response, done, repeats⟩ := exists_layered app (received request world).1 passes admitted
    answered
  rw [answerBy_eq, done]
  exact repeats.setHeader (by decide) _

theorem answerBy_of_breaks {app : App} {request : Request}
    (breaks : app.Breaks inner (received request world).1 (received request world).2) :
    app.answerBy inner request world =
      (unexpected (received request world).1).setHeader idHeader
        (received request world).1.id := by
  obtain ⟨fault, failed⟩ := (fails_layered_iff app).mpr breaks
  rw [answerBy_eq, failed]

theorem time?_received (request : Request) (world : World) :
    (received request world).2.time? = world.time? := by
  by_cases empty : (request.header? idHeader).getD "" = ""
  · simp only [received, identify, if_pos empty]
    rfl
  · simp only [received, identify, if_neg empty]
    rfl

/-! ## The notebook endpoint -/

def notebookPath : String :=
  "/api/pipeline/export/notebook"

/-- A request for the notebook of a flow, with or without a name for its project.  It is all in
Unicode: a document with half of a surrogate pair, as a label may spell one, carries no flow,
and a label that kept the half could not be written into a notebook. -/
structure OrdersNotebook (app : App) (request : Request) (flow : Flow) (name : Option String) :
    Prop where
  method : request.method = "POST"
  path : request.target.path = notebookPath
  admitted : Host.judge app.settings.access.hosts request.host = .admitted
  carries : request.carried readNotebookOrder = .ok (flow, name)

theorem not_isPreflight_of_post {request : Request} (post : request.method = "POST") :
    ¬ IsPreflight request := by
  rintro ⟨_, options, _⟩
  exact absurd (post.symm.trans options) (by decide)

/-- The service's own routes lead to the endpoint before any page does. -/
theorem find_notebook (app : App) :
    Destination.find app.routes "POST" notebookPath = .reached .notebook := by
  have own : Route.serviceRoutes.findSome? (fun route =>
      if route.method = "POST" then route.reached? notebookPath else none) = some .notebook := by
    rfl
  rw [Destination.find, routes, List.findSome?_append, own]
  rfl

theorem dispatch_notebook {app : App} (call : Call) {flow : Flow} {name : Option String}
    (orders : app.OrdersNotebook call.request flow name) :
    app.dispatch call = app.notebookFile flow name := by
  simp only [dispatch, orders.method, orders.path, find_notebook, answer, withBody,
    orders.carries]

theorem perform_notebookFile {app : App} {world : World} {time : Moment}
    (givesCode : app.catalog.GivesCode) (shown : world.time? = some time) (flow : Flow)
    (name : Option String) :
    ((app.notebookFile flow name).perform world).1 =
      (Response.json (Notebook.ofFlow app.catalog flow name time.civil).toValue).saveAs
        (Notebook.filename name) := by
  rw [notebookFile, Action.perform_now_bind shown, Compiler.notebook_eq_ok givesCode]
  simp only [Action.perform_bind, Action.perform_ofResult]

/-- The header that has a file saved under a name. -/
def disposition (name : String) : String :=
  "attachment; filename=\x22" ++ name ++ "\x22"

theorem fitsHeader_disposition (name : String) :
    fitsHeader (disposition name) = fitsHeader name := by
  have framed (start finish : String) (startFits : fitsHeader start = true)
      (finishFits : fitsHeader finish = true) :
      fitsHeader (start ++ name ++ finish) = fitsHeader name := by
    rw [fitsHeader_append, fitsHeader_append, startFits, finishFits, Bool.true_and, Bool.and_true]
  exact framed _ _ (by cbv) (by cbv)

theorem saveAs_eq (response : Response) (name : String) :
    response.saveAs name =
      if fitsHeader name = true then
        .ok (response.setHeader "content-disposition" (disposition name))
      else .error .unencodable := by
  rw [← fitsHeader_disposition]
  rfl

/-! ## What is answered to an order -/

/-- A response that brings a body of a type of media, to be saved under a name. -/
structure IsFile (response : Response) (media body name : String) : Prop where
  status : response.status = 200
  body : response.body = body
  media : response.header? "content-type" = some media
  disposition : response.header? "content-disposition" = some (disposition name)

/-- The answer to what nobody expected, which brings no file. -/
structure IsGeneral (response : Response) : Prop where
  status : response.status = 500
  noFile : response.header? "content-disposition" = none

theorem serve_eq_answerBy (app : App) (request : Request) (world : World) :
    ((app.serve request).run world).1 = app.answerBy app.dispatch request world :=
  rfl

section

variable {app : App} {request : Request} {flow : Flow} {name : Option String} {time : Moment}
  (givesCode : app.catalog.GivesCode) (orders : app.OrdersNotebook request flow name)
  (shown : world.time? = some time)

include givesCode orders shown

theorem perform_dispatch :
    ((app.dispatch (received request world).1).perform (received request world).2).1 =
      (Response.json (Notebook.ofFlow app.catalog flow name time.civil).toValue).saveAs
        (Notebook.filename name) := by
  rw [dispatch_notebook (received request world).1 orders]
  exact perform_notebookFile givesCode ((time?_received request world).trans shown) flow name

theorem isFile_answerBy (fits : fitsHeader (Notebook.filename name) = true) :
    IsFile (app.answerBy app.dispatch request world) "application/json"
      (Json.compact (Notebook.ofFlow app.catalog flow name time.civil).toValue)
      (Notebook.filename name) := by
  have answered := perform_dispatch givesCode orders shown
  rw [saveAs_eq, if_pos fits] at answered
  have repeats := repeats_answerBy (not_isPreflight_of_post orders.method) orders.admitted
    answered
  constructor
  · exact repeats.status
  · exact repeats.body
  · rw [repeats.header _ (by decide)]
    rfl
  · rw [repeats.header _ (by decide), Response.header?_setHeader, if_pos rfl]

theorem isGeneral_answerBy (tooWide : fitsHeader (Notebook.filename name) ≠ true) :
    IsGeneral (app.answerBy app.dispatch request world) := by
  have answered := perform_dispatch givesCode orders shown
  rw [saveAs_eq, if_neg tooWide] at answered
  have unanswered : Unanswered (received request world).1 .unencodable := by
    intro announced
    cases announced
  have breaks : app.Breaks app.dispatch (received request world).1
      (received request world).2 :=
    ⟨not_isPreflight_of_post orders.method, orders.admitted, _, answered, unanswered⟩
  rw [answerBy_of_breaks breaks]
  constructor
  · rfl
  · rw [Response.header?_setHeader, if_neg (by decide)]
    rfl

/-- An order for a notebook, in Unicode, is answered with the notebook, in a file that is named
after the project, exactly when a header can hold that name.  Otherwise there is no file. -/
theorem serve_notebook_iff :
    (IsFile ((app.serve request).run world).1 "application/json"
        (Json.compact (Notebook.ofFlow app.catalog flow name time.civil).toValue)
        (Notebook.filename name) ↔
      fitsHeader (Notebook.filename name) = true) ∧
      (fitsHeader (Notebook.filename name) ≠ true →
        IsGeneral ((app.serve request).run world).1) := by
  rw [serve_eq_answerBy]
  refine ⟨⟨?_, isFile_answerBy givesCode orders shown⟩,
    isGeneral_answerBy givesCode orders shown⟩
  intro file
  by_contra tooWide
  have general := isGeneral_answerBy givesCode orders shown tooWide
  exact absurd (file.status.symm.trans general.status) (by decide)

end

theorem carried_of_document {α : Type} {request : Request} {text : String} {value : Value}
    (inhabited : request.body.isEmpty = false)
    (json : announcesJson ((request.header? "content-type").getD "") = true)
    (decoded : Text.decodeDocument? request.body = some text)
    (done : Json.read text .unicode = .ok value) (read : Value → Checked α) :
    request.carried read = (read value).mapError .invalid := by
  simp [Request.carried, Request.content, inhabited, json, readDocument, decoded, done,
    Except.map]

def orderText (name : String) : String :=
  Json.compact (.record [("project_name", .text name)])

/-- The order for a project of some name. -/
def orderFor (name : String) : Request :=
  { method := "POST"
    target := { path := notebookPath }
    headers := [("host", "testserver"), ("content-type", "application/json")]
    body := Text.Utf8.encode (orderText name)
    server := "testserver" }

def plain : App :=
  { settings := Settings.defaults .testing }

theorem orders_orderFor {name : String} (inhabited : (orderFor name).body.isEmpty = false)
    (decoded : Text.decodeDocument? (orderFor name).body = some (orderText name))
    (done : Json.read (orderText name) .unicode =
      .ok (.record [("project_name", .text name)])) :
    plain.OrdersNotebook (orderFor name) {} (some name) where
  method := rfl
  path := rfl
  admitted := (by decide +kernel : Host.judge (Settings.defaults .testing).access.hosts
    "testserver" = .admitted)
  carries := by
    have json : announcesJson "application/json" = true := by decide +kernel
    have media : ((orderFor name).header? "content-type").getD "" = "application/json" := rfl
    have order : readNotebookOrder (.record [("project_name", .text name)]) =
        .ok ({}, some name) := rfl
    rw [carried_of_document inhabited ((congrArg announcesJson media).trans json) decoded done,
      order]
    rfl

theorem orders_churn : plain.OrdersNotebook (orderFor "Churn Model") {} (some "Churn Model") :=
  orders_orderFor (by cbv) (by cbv) (by cbv)

theorem orders_japanese : plain.OrdersNotebook (orderFor "日本") {} (some "日本") :=
  orders_orderFor (by cbv) (by cbv) (by cbv)

/-- A world in which nothing is kept, and its clock. -/
def newWorld : World :=
  { store := .memory [], clock := Clock.steady 63882000000000000 0 }

theorem time?_newWorld : newWorld.time? = some ⟨63882000000000000⟩ := by
  decide

theorem churn_served :
    plain.catalog.GivesCode ∧
      plain.OrdersNotebook (orderFor "Churn Model") {} (some "Churn Model") ∧
      newWorld.time? = some ⟨63882000000000000⟩ ∧
      IsFile ((plain.serve (orderFor "Churn Model")).run newWorld).1 "application/json"
        (Json.compact (Notebook.ofFlow plain.catalog {} (some "Churn Model")
          (Moment.civil ⟨63882000000000000⟩)).toValue)
        (Notebook.filename (some "Churn Model")) := by
  have givesCode : plain.catalog.GivesCode := Catalog.givesCode_builtin
  have fits : fitsHeader (Notebook.filename (some "Churn Model")) = true :=
    fitsHeader_filename (by cbv)
  have file := (serve_notebook_iff givesCode orders_churn time?_newWorld).1.mpr fits
  exact ⟨givesCode, orders_churn, time?_newWorld, file⟩

/-- A project with a Japanese name has no notebook to be saved. -/
theorem japanese_not_served :
    plain.OrdersNotebook (orderFor "日本") {} (some "日本") ∧
      Notebook.filename (some "日本") = "日本.ipynb" ∧
      ((plain.serve (orderFor "日本")).run newWorld).1.status = 500 := by
  have givesCode : plain.catalog.GivesCode := Catalog.givesCode_builtin
  have named : Notebook.filename (some "日本") = "日本.ipynb" := by cbv
  have tooWide : fitsHeader (Notebook.filename (some "日本")) ≠ true := by
    rw [named]
    decide
  have general := isGeneral_answerBy givesCode orders_japanese time?_newWorld tooWide
  rw [serve_eq_answerBy]
  exact ⟨orders_japanese, named, general.status⟩

end App

end Http

end StageGraph
