import GuardedGateway.Proofs.Http.Preemption

/-!
# The limit on bodies is exact

What a caller declares about a body and what it sends are two things, and it is free in both.  A
declared length above the limit is refused before anything is read.  Otherwise the body is read
piece by piece as it arrives, and each piece is counted down from what may be read: the limit, or
the declared length if that is less.  The web framework has a limit of its own, which is switched
off; nothing else counts.

`readWithin` is this reading.  It gives the whole body or nothing (`readWithin_eq`), so it does not
matter into which pieces the body is cut on its way (`limited_eq_streamed`).  A request
then either fits the limit, and its endpoint works on the whole body, or it is refused with a 413 by
a layer that touches nothing (`limited_of_not_fits`).

## No time at all

The layer that stops waiting lies outside the one that limits the body.  A gateway that gives its
requests no time answers all of them with an empty 408, those with too long a body among them
(`body_limit_needs_time`).
-/

namespace GuardedGateway.Gateway.Http

/-! ## Reading a body -/

/-- Reads a body that arrives in pieces, when a number of bytes may be read.  A piece with more than
what is left of them ends the reading. -/
def readWithin (left : Nat) : List Bytes → Option Bytes
  | [] => some []
  | piece :: rest =>
    if piece.length ≤ left then (readWithin (left - piece.length) rest).map (piece ++ ·) else none

/-- **A body is read as a whole or not at all**, whatever pieces it arrives in. -/
theorem readWithin_eq (left : Nat) (pieces : List Bytes) :
    readWithin left pieces =
      if pieces.flatten.length ≤ left then some pieces.flatten else none := by
  induction pieces generalizing left with
  | nil => simp [readWithin]
  | cons piece rest ih =>
    rw [readWithin, ih, List.flatten_cons, List.length_append]
    by_cases hpiece : piece.length ≤ left
    · by_cases hrest : rest.flatten.length ≤ left - piece.length
      · rw [if_pos hpiece, if_pos hrest, if_pos (by omega), Option.map_some]
      · rw [if_pos hpiece, if_neg hrest, if_neg (by omega), Option.map_none]
    · rw [if_neg hpiece, if_neg (by omega)]

/-- How much of a body may be read: nothing at all when it declares too much. -/
def Request.mayRead? (request : Request) (limit : Nat) : Option Nat :=
  match request.declaredLength? with
  | none => some limit
  | some declared => if limit < declared then none else some (min limit declared)

/-- A body fits the limit when all of it may be read. -/
theorem Request.fitsLimit_iff {request : Request} {limit : Nat} :
    request.FitsLimit limit ↔
      ∃ left, request.mayRead? limit = some left ∧ request.body.length ≤ left := by
  rw [FitsLimit, mayRead?]
  cases request.declaredLength? with
  | none => simp
  | some declared =>
    by_cases hlong : limit < declared
    · simp [hlong]
    · simp only [if_neg hlong, Option.some.injEq, forall_eq', exists_eq_left']
      omega

/-- The answer of an endpoint to a body that arrives in pieces. -/
def streamed (frame : Frame) (ambient : Ambient) (endpoint : Endpoint) (request : Request)
    (pieces : List Bytes) (state : State) : Underway Answer :=
  match request.mayRead? frame.bodyLimit with
  | none => .now state tooLongDeclared
  | some left =>
    match readWithin left pieces with
    | none => .now state tooLongRead
    | some body => endpoint.work frame ambient body state

section

variable {frame : Frame} {ambient : Ambient} {request : Request} {endpoint : Endpoint}
  {state : State}

/-- **The pieces of a body do not matter.** -/
theorem limited_eq_streamed (hposts : request.PostsTo endpoint) {pieces : List Bytes}
    (hpieces : pieces.flatten = request.body) :
    limited frame ambient request state =
      streamed frame ambient endpoint request pieces state := by
  have hread (left : Nat) : routed frame ambient left request state =
      match readWithin left pieces with
      | none => .now state tooLongRead
      | some body => endpoint.work frame ambient body state := by
    rw [routed_of_posts hposts, withBody, readWithin_eq, hpieces]
    by_cases hbody : request.body.length ≤ left
    · rw [if_pos hbody, if_pos hbody]
    · rw [if_neg hbody, if_neg hbody]
  rw [streamed, Request.mayRead?]
  cases hdeclared : request.declaredLength? with
  | none => simp only [limited, hdeclared, hread]
  | some declared =>
    by_cases hlong : frame.bodyLimit < declared
    · simp only [limited, hdeclared, if_pos hlong]
    · simp only [limited, hdeclared, if_neg hlong, hread]

/-- A request that does not fit the limit is refused, and nothing is touched. -/
theorem limited_of_not_fits (hposts : request.PostsTo endpoint)
    (hfits : ¬ request.FitsLimit frame.bodyLimit) :
    ∃ answer, answer.status = 413 ∧ limited frame ambient request state = .now state answer := by
  have hpieces : [request.body].flatten = request.body := List.flatten_singleton
  rw [limited_eq_streamed hposts hpieces, streamed]
  cases hread : request.mayRead? frame.bodyLimit with
  | none => exact ⟨tooLongDeclared, rfl, rfl⟩
  | some left =>
    have hlong : ¬ request.body.length ≤ left := fun hbody =>
      hfits (Request.fitsLimit_iff.mpr ⟨left, hread, hbody⟩)
    refine ⟨tooLongRead, rfl, ?_⟩
    simp only [readWithin_eq, hpieces, if_neg hlong]

/-- A request that declares too much is refused before its body is looked at. -/
theorem limited_of_declared {declared : Nat} (hdeclared : request.declaredLength? = some declared)
    (hlong : frame.bodyLimit < declared) :
    limited frame ambient request state = .now state tooLongDeclared := by
  simp only [limited, hdeclared, if_pos hlong]

/-- No method has to be named in the response to a `POST`. -/
theorem allow?_of_posts (hposts : request.PostsTo endpoint) : request.allow? = none := by
  obtain ⟨hmethod, hendpoint, hkind⟩ := hposts
  rw [Request.allow?, hendpoint, Option.bind_some, hmethod]
  cases endpoint with
  | health => exact absurd rfl hkind
  | execute => decide
  | mcp => decide

/-- What a request is served, once the layers inside have made an answer. -/
theorem serve_of_posts (hposts : request.PostsTo endpoint) :
    serve frame ambient request state =
      let (answer, next) := timed frame (limited frame ambient request state) state
      (⟨answer, none, requestIdOf ambient.requestId request⟩, next) := by
  rw [serve, allow?_of_posts hposts]
  simp only [seen_of_posts hposts]

/-- An answer that is there at once is served, and the state stays. -/
theorem serve_of_limited_now (hposts : request.PostsTo endpoint)
    (htimeout : 0 < frame.requestTimeoutMs) {answer : Answer}
    (h : limited frame ambient request state = .now state answer) :
    serve frame ambient request state =
      (⟨answer, none, requestIdOf ambient.requestId request⟩, state) := by
  have hatOnce : timed frame (.now state answer) state = (answer, state) :=
    if_pos htimeout
  rw [serve_of_posts hposts, h, hatOnce]

end

/-- **The limit on bodies is exact.**  Take a gateway that gives its requests some time, and a
request that posts to an endpoint for tools.

* If the body is longer than the limit, whatever it declares, the response is a 413 and nothing is
  touched, so no call is accepted, recorded or counted.
* If it declares more than the limit, so it is, whatever the body is.
* If the body is within the limit and declares nothing or its own length, its endpoint works on the
  whole of it, and what comes of that within the time is what is served.

It does not matter into which pieces the body is cut. -/
theorem body_limit_exact (registry : Tool.Registry) {initial : Settings}
    (hsecs : 1 ≤ initial.timeouts.requestSecs) (ambient : Ambient) {request : Request}
    {endpoint : Endpoint} (hposts : request.PostsTo endpoint) (state : State) :
    let frame := Frame.ofSettings registry initial
    let limit := initial.security.maxBodySize
    let served := serve frame ambient request state
    let requestId := requestIdOf ambient.requestId request
    (limit < request.body.length →
      ∃ answer, answer.status = 413 ∧ limited frame ambient request state = .now state answer ∧
        served = (⟨answer, none, requestId⟩, state)) ∧
    (∀ declared, request.declaredLength? = some declared → limit < declared →
      tooLongDeclared.status = 413 ∧
        limited frame ambient request state = .now state tooLongDeclared ∧
        served = (⟨tooLongDeclared, none, requestId⟩, state)) ∧
    (request.body.length ≤ limit →
      (request.declaredLength? = none ∨ request.declaredLength? = some request.body.length) →
      limited frame ambient request state = endpoint.work frame ambient request.body state ∧
        served =
          let (answer, next) :=
            timed frame (endpoint.work frame ambient request.body state) state
          (⟨answer, none, requestId⟩, next)) ∧
    ∀ pieces, pieces.flatten = request.body →
      limited frame ambient request state =
        streamed frame ambient endpoint request pieces state := by
  intro frame limit served requestId
  have htimeout : 0 < frame.requestTimeoutMs := Nat.mul_pos hsecs (by decide)
  refine ⟨fun hlong => ?long, fun declared hdeclared hlong => ?declared,
    fun hbody hdeclares => ?fits, fun pieces hpieces => limited_eq_streamed hposts hpieces⟩
  case long =>
    have hfits : ¬ request.FitsLimit frame.bodyLimit := fun h => Nat.not_lt.mpr h.1 hlong
    obtain ⟨answer, hstatus, hlimited⟩ := limited_of_not_fits hposts hfits
    exact ⟨answer, hstatus, hlimited, serve_of_limited_now hposts htimeout hlimited⟩
  case declared =>
    have hlimited : limited frame ambient request state = .now state tooLongDeclared :=
      limited_of_declared hdeclared hlong
    exact ⟨rfl, hlimited, serve_of_limited_now hposts htimeout hlimited⟩
  case fits =>
    have hfits : request.FitsLimit frame.bodyLimit := by
      refine ⟨hbody, fun declared hsome => ?_⟩
      obtain hnone | hown := hdeclares
      · rw [hnone] at hsome
        cases hsome
      · obtain rfl := Option.some.inj (hown.symm.trans hsome)
        exact ⟨Nat.le_refl _, hbody⟩
    have hlimited : limited frame ambient request state =
        endpoint.work frame ambient request.body state := limited_of_fits hposts hfits
    refine ⟨hlimited, ?_⟩
    rw [← hlimited]
    exact serve_of_posts hposts

/-- A request that posts a message of blanks. -/
def blankMessage (headers : List (String × String)) (length : Nat) : Request :=
  ⟨"POST", "/mcp", headers, List.replicate length 32⟩

theorem blankMessage_posts (headers : List (String × String)) (length : Nat) :
    (blankMessage headers length).PostsTo .mcp := by
  refine ⟨rfl, ?_, by decide⟩
  simp only [Request.endpoint?, Request.path, blankMessage]
  decide

/-- Under a limit of four million bytes a body of one byte more is refused although it declares
seven, one of three bytes is refused that declares five million, and one of four million is handled.
-/
theorem body_limit_exact_fourMillion :
    let initial : Settings := { Settings.allowing "default" with security := ⟨4000000⟩ }
    let frame := Frame.ofSettings .builtin initial
    let state := State.fresh initial (.now (.ok (.ofSnapshot ⟨[]⟩)))
    let ambient : Ambient := ⟨⟨1, 1⟩, 0, 0, 0⟩
    let served := fun request => serve frame ambient request state
    1 ≤ initial.timeouts.requestSecs ∧
      (blankMessage [("Content-Length", "7")] 4000001).PostsTo .mcp ∧
      (∃ answer, answer.status = 413 ∧ ∃ id,
        served (blankMessage [("Content-Length", "7")] 4000001) = (⟨answer, none, id⟩, state)) ∧
      (∃ id, served (blankMessage [("content-length", "5000000")] 3) =
        (⟨tooLongDeclared, none, id⟩, state)) ∧
      limited frame ambient (blankMessage [("content-length", "?")] 4000000) state =
        mcpRoute frame ambient (List.replicate 4000000 32) state := by
  intro initial frame state ambient served
  have hsecs : 1 ≤ initial.timeouts.requestSecs := by decide
  have hlength (headers : List (String × String)) (length : Nat) :
      (blankMessage headers length).body.length = length := List.length_replicate
  obtain ⟨hlong, -⟩ := body_limit_exact .builtin hsecs ambient
    (blankMessage_posts [("Content-Length", "7")] 4000001) state
  obtain ⟨-, hdeclared, -⟩ := body_limit_exact .builtin hsecs ambient
    (blankMessage_posts [("content-length", "5000000")] 3) state
  obtain ⟨-, -, hfits, -⟩ := body_limit_exact .builtin hsecs ambient
    (blankMessage_posts [("content-length", "?")] 4000000) state
  obtain ⟨answer, hstatus, -, hserved⟩ := hlong (by rw [hlength]; decide)
  obtain ⟨-, -, hserved'⟩ := hdeclared 5000000 (by decide) (by decide)
  obtain ⟨hhandled, -⟩ := hfits (Nat.le_of_eq (hlength _ _)) (.inl (by decide))
  exact ⟨hsecs, blankMessage_posts _ _, ⟨answer, hstatus, _, hserved⟩, ⟨_, hserved'⟩, hhandled⟩

/-- A gateway that gives its requests no time answers too long a body with an empty 408. -/
theorem body_limit_needs_time :
    let initial : Settings :=
      { Settings.allowing "default" with security := ⟨5⟩, timeouts := ⟨0⟩ }
    let state := State.fresh initial (.now (.ok (.ofSnapshot ⟨[]⟩)))
    let request := blankMessage [("x-request-id", "r")] 6
    0 < initial.security.maxBodySize ∧ request.PostsTo .mcp ∧
      initial.security.maxBodySize < request.body.length ∧
      (serve (.ofSettings .builtin initial) ⟨⟨1, 1⟩, 0, 0, 0⟩ request state).1 =
        ⟨emptyAnswer 408, none, "r"⟩ := by
  intro initial state request
  exact ⟨by decide, blankMessage_posts _ _, by decide, by decide +kernel⟩

end GuardedGateway.Gateway.Http
