import Mathlib.Data.List.Forall2
import SqlCsvServer.Foundation.Json

/-!
# The page of the SQL console: `api/root_handler.c`

The format string of `api_handle_root`, line by line, with what `snprintf` makes of
`%%`.  The page falls into three parts around the two numbers that are printed.
-/

namespace SqlCsvServer
namespace Api

open Foundation

def rootBodySize : Nat := 16384

def pageLines (lines : List String) : Bytes :=
  lines.flatMap fun line => utf8Bytes line.toList ++ [Byte.lineFeed]

def pageHead : List String :=
  ["<!doctype html>",
    "<html lang=\"ko\">",
    "<head>",
    "  <meta charset=\"utf-8\">",
    "  <meta name=\"viewport\" content=\"width=device-width, initial-scale=1\">",
    "  <title>SQL API Console</title>",
    "  <style>",
    "    :root \x7b",
    "      --bg: #f3f4f6;",
    "      --panel: #ffffff;",
    "      --border: #d1d5db;",
    "      --text: #111827;",
    "      --muted: #6b7280;",
    "      --console: #111111;",
    "      --console-text: #f3f4f6;",
    "      --ok: #166534;",
    "      --ok-bg: #dcfce7;",
    "      --running: #1d4ed8;",
    "      --running-bg: #dbeafe;",
    "      --error: #b91c1c;",
    "      --error-bg: #fee2e2;",
    "    \x7d",
    "    * \x7b box-sizing: border-box; \x7d",
    "    body \x7b",
    "      margin: 0;",
    "      min-height: 100vh;",
    "      background: var(--bg);",
    "      color: var(--text);",
    "      font-family: \"Courier New\", monospace;",
    "    \x7d",
    "    .page \x7b",
    "      max-width: 960px;",
    "      margin: 0 auto;",
    "      padding: 24px 16px 40px;",
    "    \x7d",
    "    h1 \x7b",
    "      margin: 0 0 8px;",
    "      font-size: 24px;",
    "      font-weight: 700;",
    "    \x7d",
    "    .sub \x7b",
    "      margin: 0 0 16px;",
    "      color: var(--muted);",
    "      font-size: 14px;",
    "    \x7d",
    "    .panel \x7b",
    "      background: var(--panel);",
    "      border: 1px solid var(--border);",
    "      border-radius: 10px;",
    "      padding: 16px;",
    "    \x7d",
    "    .endpoints \x7b",
    "      margin: 0 0 16px;",
    "      color: var(--muted);",
    "      font-size: 13px;",
    "      line-height: 1.6;",
    "    \x7d",
    "    textarea \x7b",
    "      width: 100%;",
    "      min-height: 180px;",
    "      resize: vertical;",
    "      padding: 14px;",
    "      border: 1px solid var(--border);",
    "      border-radius: 8px;",
    "      background: #ffffff;",
    "      color: var(--text);",
    "      font: 14px/1.6 \"Courier New\", monospace;",
    "    \x7d",
    "    textarea[readonly] \x7b",
    "      background: #f3f4f6;",
    "      cursor: wait;",
    "    \x7d",
    "    .toolbar \x7b",
    "      display: flex;",
    "      flex-wrap: wrap;",
    "      gap: 10px;",
    "      align-items: center;",
    "      margin-top: 12px;",
    "    \x7d",
    "    button \x7b",
    "      appearance: none;",
    "      border: 1px solid #374151;",
    "      border-radius: 8px;",
    "      padding: 10px 14px;",
    "      background: #111827;",
    "      color: #f9fafb;",
    "      font: 700 14px/1 \"Courier New\", monospace;",
    "      cursor: pointer;",
    "    \x7d",
    "    button:disabled \x7b",
    "      opacity: 0.6;",
    "      cursor: wait;",
    "    \x7d",
    "    .hint \x7b",
    "      color: var(--muted);",
    "      font-size: 12px;",
    "    \x7d",
    "    .status \x7b",
    "      margin-top: 16px;",
    "      min-height: 44px;",
    "      padding: 10px 12px;",
    "      border-radius: 8px;",
    "      border: 1px solid var(--border);",
    "      font-size: 14px;",
    "      line-height: 1.5;",
    "      white-space: pre-wrap;",
    "    \x7d",
    "    .status.ok \x7b",
    "      background: var(--ok-bg);",
    "      color: var(--ok);",
    "      border-color: rgba(20, 83, 45, 0.16);",
    "    \x7d",
    "    .status.running \x7b",
    "      background: var(--running-bg);",
    "      color: var(--running);",
    "      border-color: rgba(29, 78, 216, 0.18);",
    "    \x7d",
    "    .status.error \x7b",
    "      background: var(--error-bg);",
    "      color: var(--error);",
    "      border-color: #fecaca;",
    "    \x7d",
    "    .console \x7b",
    "      margin: 12px 0 0;",
    "      min-height: 260px;",
    "      padding: 14px;",
    "      overflow: auto;",
    "      border-radius: 8px;",
    "      background: var(--console);",
    "      color: var(--console-text);",
    "      border: 1px solid #1f2937;",
    "      font: 14px/1.6 \"Courier New\", monospace;",
    "      white-space: pre-wrap;",
    "      word-break: break-word;",
    "    \x7d",
    "    .meta \x7b",
    "      display: grid;",
    "      gap: 10px;",
    "      grid-template-columns: repeat(3, minmax(0, 1fr));",
    "      margin-top: 12px;",
    "    \x7d",
    "    .meta-item \x7b",
    "      padding: 10px 12px;",
    "      background: #f9fafb;",
    "      border: 1px solid var(--border);",
    "      border-radius: 8px;",
    "      font-size: 13px;",
    "    \x7d",
    "    .meta-key \x7b",
    "      display: block;",
    "      margin-bottom: 4px;",
    "      color: var(--muted);",
    "      font-size: 12px;",
    "    \x7d",
    "    @media (max-width: 640px) \x7b",
    "      .page \x7b padding: 16px 12px 24px; \x7d",
    "      .panel \x7b padding: 12px; \x7d",
    "      .meta \x7b grid-template-columns: 1fr; \x7d",
    "    \x7d",
    "  </style>",
    "</head>"]

def pageStart : List String :=
  ["<body>",
    "  <div class=\"page\">",
    "    <div class=\"panel\">",
    "      <h1>SQL API Console</h1>",
    "      <p class=\"sub\">POST /query 를 호출하는 간단한 테스트 화면입니다.</p>"]

def pageControls : List String :=
  ["      <textarea id=\"sql-input\" spellcheck=\"false\">SELECT name FROM student WHERE id = 1;</textarea>",
    "      <div class=\"toolbar\">",
    "        <button id=\"run-button\">Run</button>",
    "        <span class=\"hint\">Ctrl + Enter 또는 Cmd + Enter / help, .help, --help</span>",
    "      </div>",
    "      <div id=\"status\" class=\"status ok\">ready</div>",
    "      <div class=\"meta\">",
    "        <div class=\"meta-item\"><span class=\"meta-key\">statement_type</span><span id=\"statement-type\">-</span></div>",
    "        <div class=\"meta-item\"><span class=\"meta-key\">summary</span><span id=\"summary\">-</span></div>",
    "        <div class=\"meta-item\"><span class=\"meta-key\">elapsed_ms (cpu)</span><span id=\"elapsed\">-</span></div>",
    "        <div class=\"meta-item\"><span class=\"meta-key\">wall_elapsed_ms</span><span id=\"wall-elapsed\">-</span></div>",
    "      </div>",
    "      <pre id=\"console\" class=\"console\">waiting for query execution...</pre>",
    "    </div>",
    "  </div>"]

def pageScript : List String :=
  ["  <script>",
    "    const sqlInput = document.getElementById('sql-input');",
    "    const runButton = document.getElementById('run-button');",
    "    const statusBox = document.getElementById('status');",
    "    const consoleBox = document.getElementById('console');",
    "    const statementType = document.getElementById('statement-type');",
    "    const summary = document.getElementById('summary');",
    "    const elapsed = document.getElementById('elapsed');",
    "    const wallElapsed = document.getElementById('wall-elapsed');",
    "    const defaultRunButtonText = runButton.textContent;",
    "",
    "    function setStatus(kind, message) \x7b",
    "      statusBox.className = 'status ' + kind;",
    "      statusBox.textContent = message;",
    "    \x7d",
    "",
    "    function setRunningState(isRunning) \x7b",
    "      runButton.disabled = isRunning;",
    "      runButton.textContent = isRunning ? 'Running...' : defaultRunButtonText;",
    "      sqlInput.readOnly = isRunning;",
    "    \x7d",
    "",
    "    function setResult(data) \x7b",
    "      statementType.textContent = data.statement_type || '-';",
    "      summary.textContent = data.summary || '-';",
    "      elapsed.textContent = typeof data.elapsed_ms === 'number' ? data.elapsed_ms.toFixed(3) + ' ms' : '-';",
    "      wallElapsed.textContent = typeof data.wall_elapsed_ms === 'number' ? data.wall_elapsed_ms.toFixed(3) + ' ms' : '-';",
    "      consoleBox.textContent = data.output && data.output.length > 0 ? data.output : '(no output)';",
    "    \x7d",
    "",
    "    function buildErrorHint(error) \x7b",
    "      const code = error && error.code ? error.code : '';",
    "      const message = error && error.message ? error.message : '';",
    "      if (code === 'UNSUPPORTED_SQL' && message.indexOf('SQL must start with SELECT or INSERT') !== -1) \x7b",
    "        return 'SELECT 또는 INSERT로 시작해야 합니다. SELEC처럼 첫 키워드에 오타가 없는지 확인하세요.';",
    "      \x7d",
    "      if (code === 'SQL_PARSE_ERROR') \x7b",
    "        return '세미콜론 누락, FROM 절 누락, 컬럼/테이블 이름 누락 같은 문법 오류인지 확인하세요.';",
    "      \x7d",
    "      if (code === 'INVALID_SQL_ARGUMENT' && message.indexOf('WHERE id = ... requires an integer value.') !== -1) \x7b",
    "        return 'WHERE id = ... 는 정수만 허용합니다. 문자열 비교가 필요하면 일반 컬럼 WHERE를 사용하세요.';",
    "      \x7d",
    "      if (code === 'INVALID_SQL_ARGUMENT' && message.indexOf('SQL statement must not be blank') !== -1) \x7b",
    "        return '빈 입력은 실행되지 않습니다. SELECT 또는 INSERT 문장을 입력하세요.';",
    "      \x7d",
    "      return '';",
    "    \x7d",
    "",
    "    function setError(data) \x7b",
    "      const error = data && data.error ? data.error : \x7b\x7d;",
    "      const baseMessage = error.message || 'request failed';",
    "      const hint = buildErrorHint(error);",
    "      statementType.textContent = '-';",
    "      summary.textContent = error.code || '-';",
    "      elapsed.textContent = '-';",
    "      wallElapsed.textContent = '-';",
    "      consoleBox.textContent = hint ? baseMessage + '\\n\\n추가 안내:\\n' + hint : baseMessage;",
    "    \x7d",
    "",
    "    function showHelp() \x7b",
    "      setStatus('ok', 'help');",
    "      statementType.textContent = 'client';",
    "      summary.textContent = 'HELP';",
    "      elapsed.textContent = '-';",
    "      wallElapsed.textContent = '-';",
    "      consoleBox.textContent = [",
    "        'SQL API Console',",
    "        '',",
    "        'supported SQL:',",
    "        '  SELECT ...',",
    "        '  INSERT ...',",
    "        '',",
    "        'examples:',",
    "        '  SELECT name FROM student WHERE id = 1;',",
    "        '  SELECT * FROM student WHERE age = 25;',",
    "        '',",
    "        'special commands:',",
    "        '  help',",
    "        '  .help',",
    "        '  --help',",
    "      ].join('\\n');",
    "    \x7d",
    "",
    "    async function runQuery() \x7b",
    "      if (runButton.disabled) \x7b",
    "        return;",
    "      \x7d",
    "      const sql = sqlInput.value;",
    "      const normalized = sql.trim();",
    "      if (normalized === 'help' || normalized === '.help' || normalized === '--help') \x7b",
    "        showHelp();",
    "        return;",
    "      \x7d",
    "      if (!normalized) \x7b",
    "        setStatus('error', 'empty sql is not allowed');",
    "        statementType.textContent = '-';",
    "        summary.textContent = 'CLIENT_VALIDATION';",
    "        elapsed.textContent = '-';",
    "        wallElapsed.textContent = '-';",
    "        consoleBox.textContent = 'enter a SQL statement';",
    "        return;",
    "      \x7d",
    "      setRunningState(true);",
    "      setStatus('running', 'running');",
    "      consoleBox.textContent = 'running...';",
    "      try \x7b",
    "        const response = await fetch('/query', \x7b",
    "          method: 'POST',",
    "          headers: \x7b 'Content-Type': 'application/json' \x7d,",
    "          body: JSON.stringify(\x7b sql \x7d)",
    "        \x7d);",
    "        const data = await response.json();",
    "        if (!response.ok || !data.ok) \x7b",
    "          setStatus('error', 'error: ' + (data.error ? data.error.code : response.status));",
    "          setError(data);",
    "          return;",
    "        \x7d",
    "        setStatus('ok', 'ok');",
    "        setResult(data);",
    "      \x7d catch (error) \x7b",
    "        setStatus('error', 'network error');",
    "        statementType.textContent = '-';",
    "        summary.textContent = 'CLIENT_ERROR';",
    "        elapsed.textContent = '-';",
    "        wallElapsed.textContent = '-';",
    "        consoleBox.textContent = error.message;",
    "      \x7d finally \x7b",
    "        setRunningState(false);",
    "      \x7d",
    "    \x7d",
    "",
    "    runButton.addEventListener('click', runQuery);",
    "    sqlInput.addEventListener('keydown', function (event) \x7b",
    "      if ((event.ctrlKey || event.metaKey) && event.key === 'Enter') \x7b",
    "        runQuery();",
    "      \x7d",
    "    \x7d);",
    "  </script>",
    "</body>",
    "</html>"]

def pageOpening : Bytes :=
  pageLines pageHead ++ pageLines pageStart ++
    ascii "      <div class=\"endpoints\">GET /health<br>POST /query<br>workers: "

def pageBetween : Bytes :=
  ascii " / queue_depth: "

def pageClosing : Bytes :=
  ascii "</div>" ++ [Byte.lineFeed] ++ pageLines pageControls ++ pageLines pageScript

def Spelled (lines : List String) (texts : List (List Char)) : Prop :=
  List.Forall₂ (fun line chars => line = String.ofList chars) lines texts

theorem pageLines_spelled {lines : List String} {texts : List (List Char)}
    (h : Spelled lines texts) :
    pageLines lines = texts.flatMap fun chars => utf8Bytes chars ++ [Byte.lineFeed] := by
  unfold pageLines
  induction h with
  | nil => rfl
  | cons hline _ ih =>
      rw [List.flatMap_cons, List.flatMap_cons, ih, hline, String.toList_ofList]

theorem pageLines_length_le {lines : List String} {texts : List (List Char)} {room : Nat}
    (hlines : Spelled lines texts)
    (hroom : (texts.flatMap fun chars => utf8Bytes chars ++ [Byte.lineFeed]).length ≤ room) :
    (pageLines lines).length ≤ room :=
  pageLines_spelled hlines ▸ hroom

theorem pageLines_append (front back : List String) :
    pageLines (front ++ back) = pageLines front ++ pageLines back :=
  List.flatMap_append

theorem pageLines_length :
    (pageLines (pageHead ++ pageStart ++ pageControls ++ pageScript)).length ≤ 15000 := by
  dsimp only [pageHead, pageStart, pageControls, pageScript, List.cons_append, List.nil_append]
  apply pageLines_length_le
  · repeat
      apply List.Forall₂.cons
      · rfl
    exact .nil
  · decide +kernel

theorem page_length :
    pageOpening.length + pageBetween.length + pageClosing.length + 22 < rootBodySize := by
  have hlines := pageLines_length
  have hworkers : (ascii
      "      <div class=\"endpoints\">GET /health<br>POST /query<br>workers: ").length = 68 := by
    decide
  have hbetween : pageBetween.length = 16 := rfl
  have hend : (ascii "</div>").length = 6 := rfl
  simp only [pageLines_append, List.length_append] at hlines
  simp only [pageOpening, pageClosing, rootBodySize, List.length_append, List.length_singleton,
    hworkers, hbetween, hend]
  omega

end Api
end SqlCsvServer
