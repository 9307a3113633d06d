import SqlCsvServer.Http.HeadLines

/-!
# Which requests are refused as chunked

The check looks at one header, the first `Transfer-Encoding` it has.
-/

namespace SqlCsvServer
namespace Http

open Foundation Common Engine

def listsChunked (value : Bytes) : Bool :=
  (value.splitOn Byte.comma).any fun element =>
    stringsEqualIgnoreCase (trimWhitespace element) (ascii "chunked")

def isTransferEncoding (header : HttpHeader) : Bool :=
  stringsEqualIgnoreCase header.name (ascii "Transfer-Encoding")

/-- Some `Transfer-Encoding` line of the head lists `chunked`. -/
def ListsChunked (head : Bytes) : Prop :=
  exists line, line ∈ headerLines head ∧ isTransferEncoding (lineHeader line) = true ∧
    listsChunked (lineHeader line).value = true

/--
In front of any line that starts with NUL there is a `Transfer-Encoding` line,
and the first of them lists `chunked`.
-/
def FirstListsChunked (head : Bytes) : Prop :=
  exists header,
    (((headerLines head).takeWhile isShown).map lineHeader).find? isTransferEncoding =
        some header ∧
      listsChunked header.value = true

theorem transferEncodingCheck_alone (value : Bytes) :
    (transferEncodingCheck (some value)).alone = listsChunked value := by
  have hloop : forall parts : List Bytes,
      transferEncodingLoop.resultOf transferEncodingLoop.start
          (parts.filter fun part => part != []) =
        parts.any fun element =>
          stringsEqualIgnoreCase (trimWhitespace element) (ascii "chunked") := by
    intro parts
    induction parts with
    | nil => rfl
    | cons part parts ih =>
        rw [List.any_cons, List.filter_cons]
        by_cases hempty : part = []
        · subst hempty
          have hnot : stringsEqualIgnoreCase (trimWhitespace []) (ascii "chunked") =
              false := by
            decide
          rw [if_neg (by simp), hnot, Bool.false_or, ih]
        · rw [if_pos (bne_iff_ne.mpr hempty), TokenLoop.resultOf.eq_def]
          cases hchunked : stringsEqualIgnoreCase (trimWhitespace part) (ascii "chunked") with
          | true =>
              have hfound : transferEncodingLoop.onToken transferEncodingLoop.start part =
                  .inr true := if_pos hchunked
              simp only [hfound, Bool.true_or]
          | false =>
              have hmore : transferEncodingLoop.onToken transferEncodingLoop.start part =
                  .inl transferEncodingLoop.start :=
                if_neg (by rw [hchunked]; exact Bool.false_ne_true)
              simp only [hmore, Bool.false_or]
              exact ih
  change transferEncodingLoop.resultOf transferEncodingLoop.start
    (tokens [Byte.comma] value) = _
  rw [tokens_splitOn]
  exact hloop _

theorem transferEncodingCheck_iff {headers : List HttpHeader} {request : HttpRequest}
    (hheaders : request.headers = headers) :
    (transferEncodingCheck
        (httpRequestGetHeader request (ascii "Transfer-Encoding"))).alone = true <->
      exists header, headers.find? isTransferEncoding = some header ∧
        listsChunked header.value = true := by
  have hget : httpRequestGetHeader request (ascii "Transfer-Encoding") =
      (headers.find? isTransferEncoding).map HttpHeader.value := by
    rw [← hheaders]
    rfl
  rw [hget]
  cases headers.find? isTransferEncoding with
  | none =>
      constructor
      · exact nofun
      · rintro ⟨header, hnone, _⟩
        cases hnone
  | some header =>
      rw [Option.map_some, transferEncodingCheck_alone]
      constructor
      · exact fun h => ⟨header, rfl, h⟩
      · rintro ⟨other, hother, h⟩
        cases hother
        exact h

theorem readBehindHead_chunked_iff {bodyLimit : Nat} {head : Bytes} {socket : ByteStream}
    {parsed : HttpRequest} (hends : EndsOnce head) (hparsed : parseHead head = .ok parsed) :
    (exists text, (readBehindHead bodyLimit head socket).2 =
        .error (.chunkedNotSupported, text)) <->
      FirstListsChunked head := by
  have hcheck := transferEncodingCheck_iff (parseHead_headers hends hparsed).1
  unfold FirstListsChunked
  rw [← hcheck]
  unfold readBehindHead
  rw [hparsed]
  simp only
  split
  · next hchunked => exact ⟨fun _ => hchunked, fun _ => ⟨_, rfl⟩⟩
  · next hchunked =>
      constructor
      · rintro ⟨text, herror⟩
        exfalso
        split at herror
        · next hlength =>
            cases herror
            cases requestContentLength_error hlength
        · rcases readBody_error herror with hcode | hcode
          · cases hcode
          · cases hcode
      · exact fun h => absurd h hchunked

/--
Of a head that can be parsed: chunked is refused just when the first
`Transfer-Encoding` lists it, and so no other request is accepted with it.
-/
theorem chunked_refused_iff {socket : ByteStream} {headerLimit bodyLimit n : Nat}
    {parsed : HttpRequest} (hlimit : n ≤ headerLimit) (hends : HeadEnds socket.bytes n)
    (hparsed : parseHead (socket.bytes.take n) = .ok parsed) :
    ((ListsChunked (socket.bytes.take n) ->
          exists text, (httpReadRequest socket headerLimit bodyLimit).2 =
            .error (.chunkedNotSupported, text)) <->
        (ListsChunked (socket.bytes.take n) ->
          FirstListsChunked (socket.bytes.take n))) ∧
      forall request,
        (httpReadRequest socket headerLimit bodyLimit).2 = .ok request ->
          (¬ ListsChunked (socket.bytes.take n) <->
            (ListsChunked (socket.bytes.take n) ->
              FirstListsChunked (socket.bytes.take n))) := by
  have hiff : (exists text, (httpReadRequest socket headerLimit bodyLimit).2 =
        .error (.chunkedNotSupported, text)) <->
      FirstListsChunked (socket.bytes.take n) := by
    have hread := readHead_read socket headerLimit
    unfold httpReadRequest
    generalize readHead headerLimit [] socket = outcome at hread
    cases hread with
    | @complete m behind _ hm hrest =>
        rw [hm.unique hends]
        exact readBehindHead_chunked_iff hends.endsOnce hparsed
    | truncated _ hnone => exact absurd hends (hnone n)
    | tooLarge _ hnone => exact absurd hends (hnone n hlimit)
  rw [hiff]
  refine ⟨Iff.rfl, fun request hok => ⟨fun hnone hlists => absurd hlists hnone, ?_⟩⟩
  intro hfirst hlists
  rcases hiff.mpr (hfirst hlists) with ⟨text, herror⟩
  rw [hok] at herror
  cases herror

/-- A head with one or two `Transfer-Encoding` lines. -/
def encodingHead (lines : Bytes) : Bytes :=
  ascii "GET / HTTP/1.1\r\n" ++ lines ++ ascii "\r\n"

theorem chunked_refused_iff_sample :
    exists text, (httpReadRequest
      (wholeStream (encodingHead (ascii "Transfer-Encoding: gzip, Chunked\r\n"))
        (by decide)) 64 0).2 = .error (.chunkedNotSupported, text) := by
  have hends : HeadEnds (encodingHead (ascii "Transfer-Encoding: gzip, Chunked\r\n"))
      52 :=
    ⟨by decide, by decide, by decide⟩
  have hparsed : parseHead
      ((encodingHead (ascii "Transfer-Encoding: gzip, Chunked\r\n")).take 52) =
      .ok
        { method := ascii "GET"
          path := ascii "/"
          version := ascii "HTTP/1.1"
          headers :=
            [{ name := ascii "Transfer-Encoding", value := ascii "gzip, Chunked" }]
          body := []
          bodyLength := 0 } := by
    decide
  have hlines : headerLines
      ((encodingHead (ascii "Transfer-Encoding: gzip, Chunked\r\n")).take 52) =
      [ascii "Transfer-Encoding: gzip, Chunked"] := by
    decide
  have hfirst : FirstListsChunked
      ((encodingHead (ascii "Transfer-Encoding: gzip, Chunked\r\n")).take 52) := by
    refine ⟨{ name := ascii "Transfer-Encoding", value := ascii "gzip, Chunked" }, ?_, ?_⟩
    · rw [hlines]
      decide
    · decide
  have hlists : ListsChunked
      ((encodingHead (ascii "Transfer-Encoding: gzip, Chunked\r\n")).take 52) := by
    refine ⟨ascii "Transfer-Encoding: gzip, Chunked", ?_, ?_, ?_⟩
    · rw [hlines]
      exact List.mem_singleton_self _
    · decide
    · decide
  exact (@chunked_refused_iff (wholeStream
    (encodingHead (ascii "Transfer-Encoding: gzip, Chunked\r\n")) (by decide))
      64 0 52 _ (by decide) hends hparsed).1.mpr (fun _ => hfirst) hlists

/-- A second `Transfer-Encoding` is not looked at. -/
theorem chunked_accepted_behind_another :
    HeadEnds (encodingHead
        (ascii "Transfer-Encoding: gzip\r\nTransfer-Encoding: chunked\r\n")) 71 ∧
      ListsChunked (encodingHead
        (ascii "Transfer-Encoding: gzip\r\nTransfer-Encoding: chunked\r\n")) ∧
      exists request, (httpReadRequest
        (wholeStream (encodingHead
          (ascii "Transfer-Encoding: gzip\r\nTransfer-Encoding: chunked\r\n"))
          (by decide)) 128 0).2 = .ok request := by
  have hlines : headerLines (encodingHead
      (ascii "Transfer-Encoding: gzip\r\nTransfer-Encoding: chunked\r\n")) =
      [ascii "Transfer-Encoding: gzip", ascii "Transfer-Encoding: chunked"] := by
    decide
  have haccepted : (httpReadRequest
      (wholeStream (encodingHead
        (ascii "Transfer-Encoding: gzip\r\nTransfer-Encoding: chunked\r\n"))
        (by decide)) 128 0).2 =
      .ok
        { method := ascii "GET"
          path := ascii "/"
          version := ascii "HTTP/1.1"
          headers :=
            [{ name := ascii "Transfer-Encoding", value := ascii "gzip" },
              { name := ascii "Transfer-Encoding", value := ascii "chunked" }]
          body := []
          bodyLength := 0 } := by
    decide
  refine ⟨⟨by decide, by decide, by decide⟩, ?_, _, haccepted⟩
  refine ⟨ascii "Transfer-Encoding: chunked", ?_, ?_, ?_⟩
  · rw [hlines]
    exact List.mem_cons_of_mem _ (List.mem_singleton_self _)
  · decide
  · decide

end Http
end SqlCsvServer
