import Mathlib.Algebra.Group.Nat.Defs
import SqlCsvServer.Foundation.ByteSink
import SqlCsvServer.Http.HttpResponse
import SqlCsvServer.Http.RequestRoundTrip

/-!
# Responses on the wire: `http_response_send`

A response is a status line, three header lines and a body whose length one of them
announces.  A client finds the same parts in the bytes again, whatever the body is.
-/

namespace SqlCsvServer
namespace Http

open Foundation Common Engine

/-!
## Sending
-/

def httpReasonPhrase : Nat -> Bytes
  | 200 => ascii "OK"
  | 400 => ascii "Bad Request"
  | 404 => ascii "Not Found"
  | 405 => ascii "Method Not Allowed"
  | 411 => ascii "Length Required"
  | 413 => ascii "Payload Too Large"
  | 431 => ascii "Request Header Fields Too Large"
  | 500 => ascii "Internal Server Error"
  | 501 => ascii "Not Implemented"
  | 503 => ascii "Service Unavailable"
  | _ => ascii "Internal Server Error"

/-- The loop of `send_all`; every round sends at least one byte. -/
def sendAllLoop (buffer : Bytes) : Nat -> Nat -> ByteSink -> ByteSink × Bool
  | 0, _, socket => (socket, false)
  | fuel + 1, offset, socket =>
      if offset < buffer.length then
        match socket.send (buffer.drop offset) with
        | (0, socket) => (socket, false)
        | (sent + 1, socket) => sendAllLoop buffer fuel (offset + (sent + 1)) socket
      else (socket, true)

def sendAll (socket : ByteSink) (buffer : Bytes) : ByteSink × Bool :=
  sendAllLoop buffer (buffer.length + 1) 0 socket

/-- The text that `http_response_send` prints into `header`. -/
def responseHeader (response : HttpResponse) : Bytes :=
  ascii "HTTP/1.1 " ++ decimalNat response.statusCode ++ ascii " " ++
    httpReasonPhrase response.statusCode ++ ascii "\r\nContent-Type: " ++
      response.contentType ++ ascii "\r\nContent-Length: " ++
        decimalNat response.body.length ++ ascii "\r\nConnection: close\r\n\r\n"

def responseHeaderSize : Nat := 256

def httpResponseSend (socket : ByteSink) (response : HttpResponse) :
    ByteSink × Bool :=
  if responseHeaderSize ≤ (responseHeader response).length then (socket, false)
  else
    match sendAll socket (responseHeader response) with
    | (socket, false) => (socket, false)
    | (socket, true) =>
        if 0 < response.body.length then sendAll socket response.body
        else (socket, true)

/-- All bytes of a response. -/
def responseBytes (response : HttpResponse) : Bytes :=
  responseHeader response ++ response.body

/-!
## What is sent
-/

/-- What became of a text that was to be sent. -/
structure Sent (before : ByteSink) (text : Bytes) (outcome : ByteSink × Bool) :
    Prop where
  /-- The peer got the beginning of it, and all of it if the call says so. -/
  taken : exists part, outcome.1.taken = before.taken ++ part ∧ part <+: text ∧
    (outcome.2 = true <-> part = text)
  /-- A connection that lasts long enough gets it all. -/
  lasts : forall more, before.Lasts (text.length + more) ->
    outcome.2 = true ∧ outcome.1.Lasts more

theorem sendAllLoop_sent {buffer : Bytes} {fuel offset : Nat} {socket : ByteSink}
    (hfuel : buffer.length < offset + fuel) (hoffset : offset ≤ buffer.length) :
    Sent socket (buffer.drop offset) (sendAllLoop buffer fuel offset socket) := by
  induction fuel generalizing offset socket with
  | zero => omega
  | succ fuel ih =>
      have hlength : (buffer.drop offset).length = buffer.length - offset :=
        List.length_drop
      rw [sendAllLoop]
      split
      · next hmore =>
          have hne : buffer.drop offset ≠ [] := by
            intro hnil
            rw [hnil, List.length_nil] at hlength
            omega
          have htaken := @ByteSink.send_taken socket (buffer.drop offset)
          have hle := @ByteSink.send_le socket (buffer.drop offset)
          have hlasts := fun calls =>
            @ByteSink.send_lasts socket (buffer.drop offset) calls
          rcases hsend : socket.send (buffer.drop offset) with ⟨sent, left⟩
          rw [hsend] at htaken hle hlasts
          cases sent with
          | zero =>
              constructor
              · refine ⟨[], ?_, List.nil_prefix, ?_⟩
                · rw [List.take_zero] at htaken
                  exact htaken
                · constructor
                  · exact nofun
                  · exact fun hnil => absurd hnil.symm hne
              · intro more hmany
                have hfirst := hmany.mono (show more + 1 ≤ _ by omega)
                exact absurd (hlasts more hfirst hne).1 (Nat.lt_irrefl 0)
          | succ sent =>
              rw [hlength] at hle
              have hrest := @ih (offset + (sent + 1)) left (by omega) (by omega)
              rw [← List.drop_drop] at hrest
              constructor
              · rcases hrest.taken with ⟨part, hpart, hprefix, hall⟩
                refine ⟨(buffer.drop offset).take (sent + 1) ++ part, ?_, ?_, ?_⟩
                · rw [hpart, htaken, List.append_assoc]
                · have hwhole := List.take_append_drop (sent + 1) (buffer.drop offset)
                  conv_rhs => rw [← hwhole]
                  exact (List.prefix_append_right_inj _).mpr hprefix
                · rw [hall]
                  have hwhole := List.take_append_drop (sent + 1) (buffer.drop offset)
                  constructor
                  · intro hpart
                    rw [hpart, hwhole]
                  · intro hsame
                    apply @List.append_cancel_left _
                      ((buffer.drop offset).take (sent + 1))
                    rw [hsame, hwhole]
              · intro more hmany
                apply hrest.lasts
                have hfirst : left.Lasts ((buffer.drop offset).length + more - 1) := by
                  apply (hlasts _ _ hne).2
                  exact hmany.mono (by omega)
                apply hfirst.mono
                rw [List.length_drop]
                omega
      · next hend =>
          have hnil : buffer.drop offset = [] :=
            List.drop_eq_nil_of_le (Nat.not_lt.mp hend)
          rw [hnil]
          constructor
          · exact ⟨[], (List.append_nil _).symm, List.nil_prefix,
              ⟨fun _ => rfl, fun _ => rfl⟩⟩
          · intro more hmany
            rw [List.length_nil, Nat.zero_add] at hmany
            exact ⟨rfl, hmany⟩

theorem sendAll_sent (socket : ByteSink) (buffer : Bytes) :
    Sent socket buffer (sendAll socket buffer) := by
  have hsent := @sendAllLoop_sent buffer (buffer.length + 1) 0 socket (by omega)
    (Nat.zero_le _)
  rwa [List.drop_zero] at hsent

theorem httpResponseSend_sent {socket : ByteSink} {response : HttpResponse}
    (hfits : (responseHeader response).length < responseHeaderSize) :
    Sent socket (responseBytes response) (httpResponseSend socket response) := by
  have hheader := sendAll_sent socket (responseHeader response)
  unfold httpResponseSend responseBytes
  rw [if_neg (Nat.not_le.mpr hfits)]
  rcases hsend : sendAll socket (responseHeader response) with ⟨left, sent⟩
  rw [hsend] at hheader
  rcases hheader.taken with ⟨part, hpart, hprefix, hall⟩
  cases sent with
  | false =>
      have hne : part ≠ responseHeader response := fun hsame => nomatch hall.mpr hsame
      constructor
      · refine ⟨part, hpart, hprefix.trans (List.prefix_append _ _), ?_⟩
        constructor
        · exact nofun
        · intro hwhole
          apply absurd _ hne
          apply hprefix.eq_of_length_le
          rw [hwhole, List.length_append]
          exact Nat.le_add_right _ _
      · intro more hmany
        rw [List.length_append, Nat.add_assoc] at hmany
        exact nomatch (hheader.lasts _ hmany).1
  | true =>
      have hbody : Sent left response.body
          (if 0 < response.body.length then sendAll left response.body
            else (left, true)) := by
        split
        · exact sendAll_sent left response.body
        · next hnone =>
            have hnil : response.body = [] :=
              List.eq_nil_of_length_eq_zero (Nat.eq_zero_of_not_pos hnone)
            rw [hnil]
            exact ⟨⟨[], (List.append_nil _).symm, List.nil_prefix, by simp⟩,
              fun more hmany => ⟨rfl, by rwa [List.length_nil, Nat.zero_add] at hmany⟩⟩
      rcases hbody.taken with ⟨rest, hrest, hrestPrefix, hrestAll⟩
      rw [hall.mp rfl] at hpart
      constructor
      · refine ⟨responseHeader response ++ rest, ?_, ?_, ?_⟩
        · rw [hrest, hpart, List.append_assoc]
        · exact (List.prefix_append_right_inj _).mpr hrestPrefix
        · rw [List.append_right_inj]
          exact hrestAll
      · intro more hmany
        rw [List.length_append, Nat.add_assoc] at hmany
        exact hbody.lasts more (hheader.lasts _ hmany).2

theorem responseHeader_fits {response : HttpResponse}
    (hstatus : response.statusCode < 1000) (htype : response.contentType.length ≤ 32)
    (hbody : response.body.length < 2 ^ 64) :
    (responseHeader response).length < responseHeaderSize := by
  have hprinted : forall {n digits : Nat}, 0 < digits -> n < 10 ^ digits ->
      (decimalNat n).length ≤ digits := by
    intro n digits hpos hless
    unfold decimalNat
    rw [List.length_map]
    exact (Nat.length_toDigits_le_iff (by decide) hpos).mpr hless
  have hcode := @hprinted response.statusCode 3 (by decide) hstatus
  have hlength := @hprinted response.body.length 20 (by decide)
    (Nat.lt_trans hbody (by decide))
  have hphrase : (httpReasonPhrase response.statusCode).length ≤ 31 := by
    unfold httpReasonPhrase
    split
    all_goals decide
  have hfixed : (ascii "HTTP/1.1 ").length + (ascii " ").length +
      (ascii "\r\nContent-Type: ").length + (ascii "\r\nContent-Length: ").length +
        (ascii "\r\nConnection: close\r\n\r\n").length ≤ 128 := by
    decide
  unfold responseHeader responseHeaderSize
  simp only [List.length_append]
  omega

/-!
## What a client reads
-/

/-- A response as a client has it. -/
structure ReceivedResponse where
  statusCode : Nat
  headers : List HttpHeader
  body : Bytes

def ReceivedResponse.header (response : ReceivedResponse) (name : Bytes) :
    Option Bytes :=
  (response.headers.find? fun header =>
    stringsEqualIgnoreCase header.name name).map HttpHeader.value

/--
The bytes are this response: a status line and header lines up to the first empty
line, and behind it a body of the length that the headers announce, and no more.
-/
def ReceivedAs (wire : Bytes) (response : ReceivedResponse) : Prop :=
  exists n phrase lines,
    HeadEnds wire n ∧
      crlfLines (wire.take n) =
        (ascii "HTTP/1.1 " ++
          (decimalNat response.statusCode ++ Byte.space :: phrase)) ::
            (lines ++ [[]]) ∧
        response.headers = lines.map lineHeader ∧
          response.header (ascii "Content-Length") =
            some (decimalNat response.body.length) ∧
            wire.drop n = response.body

theorem decimalNat_cut {m n : Nat} {left right : Bytes}
    (h : decimalNat m ++ Byte.space :: left = decimalNat n ++ Byte.space :: right) :
    m = n := by
  have htake : forall (n : Nat) (rest : Bytes),
      (decimalNat n ++ Byte.space :: rest).takeWhile isDigit = decimalNat n := by
    intro n rest
    rw [List.takeWhile_append_of_pos (decimalNat_digits n)]
    show decimalNat n ++ [] = decimalNat n
    exact List.append_nil _
  have hsame := congrArg (List.takeWhile isDigit) h
  rw [htake, htake] at hsame
  rw [← digitsValue_decimalNat m, hsame, digitsValue_decimalNat]

theorem ReceivedAs.unique {wire : Bytes} {first second : ReceivedResponse}
    (hfirst : ReceivedAs wire first) (hsecond : ReceivedAs wire second) :
    first = second := by
  rcases hfirst with ⟨n, phrase, lines, hends, hlines, hheaders, _, hbody⟩
  rcases hsecond with ⟨m, other, others, hends', hlines', hheaders', _, hbody'⟩
  rw [hends'.unique hends] at hlines' hbody'
  rw [hlines] at hlines'
  rcases List.cons.inj hlines' with ⟨hstatus, hmore⟩
  rw [List.append_left_inj] at hmore
  have hcode := decimalNat_cut (List.append_cancel_left hstatus)
  cases first
  cases second
  simp only at hheaders hheaders' hbody hbody' hcode
  rw [hheaders, hheaders', hmore, hcode, ← hbody, ← hbody']

structure IsHeaderValue (value : Bytes) : Prop where
  trimmed : trimWhitespace value = value
  lineFree : LineFree value

def responseHeaders (response : HttpResponse) : List HttpHeader :=
  [{ name := ascii "Content-Type", value := response.contentType },
    { name := ascii "Content-Length", value := decimalNat response.body.length },
    { name := ascii "Connection", value := ascii "close" }]

/-- The response that a client has of a response of the server. -/
def receivedResponse (response : HttpResponse) : ReceivedResponse :=
  { statusCode := response.statusCode
    headers := responseHeaders response
    body := response.body }

theorem isHeaderValue_decimalNat (n : Nat) : IsHeaderValue (decimalNat n) := by
  have hclass : forall b : Byte, isDigit b = true ->
      isSpace b = false ∧ b ≠ Byte.carriageReturn ∧ b ≠ Byte.lineFeed ∧
        b ≠ Byte.nul := by
    decide +kernel
  have hbyte := fun b hb => hclass b (decimalNat_digits n b hb)
  constructor
  · rw [trimWhitespace_eq_self_iff]
    constructor
    · exact fun b hb => (hbyte b (List.mem_of_mem_head? hb)).1
    · exact fun b hb => (hbyte b (List.mem_of_mem_getLast? hb)).1
  · exact ⟨fun hb => (hbyte _ hb).2.1 rfl, fun hb => (hbyte _ hb).2.2.1 rfl,
      fun hb => (hbyte _ hb).2.2.2 rfl⟩

theorem isHeader_response {response : HttpResponse}
    (h : IsHeaderValue response.contentType) :
    forall header, header ∈ responseHeaders response -> IsHeader header := by
  have hname : forall {name value : Bytes}, trimWhitespace name = name ->
      0x3A ∉ name -> LineFree name -> IsHeaderValue value ->
        IsHeader { name := name, value := value } :=
    fun htrimmed hcolon hfree hvalue =>
      { nameTrimmed := htrimmed
        nameColon := hcolon
        name := hfree
        valueTrimmed := hvalue.trimmed
        value := hvalue.lineFree }
  intro header hheader
  unfold responseHeaders at hheader
  simp only [List.mem_cons, List.not_mem_nil, or_false] at hheader
  rcases hheader with rfl | rfl | rfl
  · exact hname (by decide) (by decide) ⟨by decide, by decide, by decide⟩ h
  · exact hname (by decide) (by decide) ⟨by decide, by decide, by decide⟩
      (isHeaderValue_decimalNat _)
  · exact hname (by decide) (by decide) ⟨by decide, by decide, by decide⟩
      ⟨by decide, by decide, by decide, by decide⟩

theorem lineHeader_headerLine {header : HttpHeader} (h : IsHeader header) :
    lineHeader (headerLine header) = header :=
  (separateHeader_some (separateHeader_rendered h)).symm

theorem httpReasonPhrase_lineFree (statusCode : Nat) :
    Byte.carriageReturn ∉ httpReasonPhrase statusCode := by
  unfold httpReasonPhrase
  split
  all_goals decide

def statusLine (response : HttpResponse) : Bytes :=
  ascii "HTTP/1.1 " ++
    (decimalNat response.statusCode ++
      Byte.space :: httpReasonPhrase response.statusCode)

theorem statusLine_lineFree (response : HttpResponse) :
    Byte.carriageReturn ∉ statusLine response := by
  unfold statusLine
  rw [List.mem_append, List.mem_append, List.mem_cons]
  rintro (hmem | hmem | hmem | hmem)
  · revert hmem
    decide
  · exact (isHeaderValue_decimalNat _).lineFree.1 hmem
  · cases hmem
  · exact httpReasonPhrase_lineFree _ hmem

theorem responseHeader_eq (response : HttpResponse) :
    responseHeader response =
      statusLine response ++
        (lineEnd ++ linesText ((responseHeaders response).map headerLine)) := by
  have htype : ascii "\r\nContent-Type: " =
      lineEnd ++ (ascii "Content-Type" ++ ascii ": ") := rfl
  have hlength : ascii "\r\nContent-Length: " =
      lineEnd ++ (ascii "Content-Length" ++ ascii ": ") := rfl
  have hclose : ascii "\r\nConnection: close\r\n\r\n" =
      lineEnd ++ (ascii "Connection" ++ (ascii ": " ++
        (ascii "close" ++ (lineEnd ++ lineEnd)))) := rfl
  have hspace : ascii " " = [Byte.space] := rfl
  unfold responseHeader statusLine responseHeaders headerLine
  rw [htype, hlength, hclose, hspace]
  simp only [List.map_cons, List.map_nil, linesText_cons, List.append_assoc,
    List.cons_append]
  rfl

theorem crlfLines_responseHeader {response : HttpResponse}
    (h : IsHeaderValue response.contentType) :
    crlfLines (responseHeader response) =
      statusLine response ::
        ((responseHeaders response).map headerLine ++ [[]]) := by
  rw [responseHeader_eq, crlfLines_line (statusLine_lineFree response),
    crlfLines_linesText]
  intro line hline
  rcases List.mem_map.mp hline with ⟨header, hheader, rfl⟩
  exact (headerLine_lineFree (isHeader_response h header hheader)).1

theorem receivedAs_response {response : HttpResponse}
    (h : IsHeaderValue response.contentType) :
    ReceivedAs (responseBytes response) (receivedResponse response) := by
  have hlines := crlfLines_responseHeader h
  have honce : EndsOnce (responseHeader response) := by
    refine endsOnce_of_lines (responseHeader_eq response) hlines ?_
    intro line hline
    rcases List.mem_map.mp hline with ⟨header, hheader, rfl⟩
    rcases headerLine_first (isHeader_response h header hheader) with ⟨b, rest, hfirst, _⟩
    rw [hfirst]
    exact List.cons_ne_nil _ _
  refine ⟨(responseHeader response).length, httpReasonPhrase response.statusCode,
    (responseHeaders response).map headerLine, headEnds_append honce _, ?_, ?_, ?_, ?_⟩
  · unfold responseBytes
    rw [List.take_left]
    exact hlines
  · rw [List.map_map]
    symm
    exact (List.map_congr_left fun header hheader =>
      lineHeader_headerLine (isHeader_response h header hheader)).trans (List.map_id _)
  · rfl
  · exact List.drop_left

end Http
end SqlCsvServer
