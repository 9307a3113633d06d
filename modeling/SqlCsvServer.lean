import SqlCsvServer.Foundation.Bytes
import SqlCsvServer.Foundation.Decimal
import SqlCsvServer.Foundation.Within
import SqlCsvServer.Foundation.KeyedList
import SqlCsvServer.Foundation.FixedArray
import SqlCsvServer.Foundation.LineReader
import SqlCsvServer.Foundation.GrowingBlock
import SqlCsvServer.Foundation.ByteStream
import SqlCsvServer.Foundation.Transition
import SqlCsvServer.Foundation.RingBuffer
import SqlCsvServer.Foundation.BoundedFifo
import SqlCsvServer.Foundation.ThreadSum
import SqlCsvServer.Foundation.LockProgram
import SqlCsvServer.Foundation.LockSystem
import SqlCsvServer.Foundation.LockOrder
import SqlCsvServer.Foundation.CriticalSection
import SqlCsvServer.Foundation.SideBySide
import SqlCsvServer.Foundation.TokenLoop
import SqlCsvServer.Foundation.Json
import SqlCsvServer.Foundation.ByteSink
import SqlCsvServer.Foundation.Unwinding
import SqlCsvServer.Foundation.NumberedTable
import SqlCsvServer.Foundation.FairRun
import SqlCsvServer.Foundation.Ledger
import SqlCsvServer.Common.Util
import SqlCsvServer.Common.EngineLock
import SqlCsvServer.Common.StrictInt
import SqlCsvServer.Common.DisplayWidth
import SqlCsvServer.Sql.Ast
import SqlCsvServer.Sql.Lexer
import SqlCsvServer.Sql.Parser
import SqlCsvServer.Sql.Grammar
import SqlCsvServer.Sql.Rendering
import SqlCsvServer.Sql.RoundTrip
import SqlCsvServer.Sql.LexerLanguage
import SqlCsvServer.Sql.LexerMemory
import SqlCsvServer.Sql.ParserLanguage
import SqlCsvServer.Sql.ParserMemory
import SqlCsvServer.Storage.Csv
import SqlCsvServer.Storage.CsvMemory
import SqlCsvServer.Storage.Rows
import SqlCsvServer.Storage.RowLines
import SqlCsvServer.Storage.Schema
import SqlCsvServer.Storage.SchemaOrder
import SqlCsvServer.Storage.Append
import SqlCsvServer.Storage.Headers
import SqlCsvServer.Storage.AppendFrame
import SqlCsvServer.Storage.AppendFaults
import SqlCsvServer.Index.BPlusTree
import SqlCsvServer.Index.BPlusTreeContents
import SqlCsvServer.Index.BPlusTreeMap
import SqlCsvServer.Index.BPlusTreeShape
import SqlCsvServer.Index.NodeMemory
import SqlCsvServer.Index.NodeCells
import SqlCsvServer.Index.NodeLayout
import SqlCsvServer.Index.NodeSimulation
import SqlCsvServer.Index.NodeShape
import SqlCsvServer.Index.NodeCount
import SqlCsvServer.Index.NodeFree
import SqlCsvServer.Index.TableIndex
import SqlCsvServer.Index.Rebuild
import SqlCsvServer.Index.View
import SqlCsvServer.Index.Pointers
import SqlCsvServer.Index.PointerRuns
import SqlCsvServer.Index.TableParts
import SqlCsvServer.Execution.Insert
import SqlCsvServer.Execution.InsertRow
import SqlCsvServer.Execution.RowBuilding
import SqlCsvServer.Execution.Select
import SqlCsvServer.Execution.SelectSlots
import SqlCsvServer.Execution.TableAlignment
import SqlCsvServer.Execution.IndexRun
import SqlCsvServer.Execution.ReadPaths
import SqlCsvServer.Execution.ReadBack
import SqlCsvServer.Execution.SameAnswers
import SqlCsvServer.Execution.Rejected
import SqlCsvServer.Execution.AppendFailure
import SqlCsvServer.Execution.AllocationFailure
import SqlCsvServer.Execution.Programs
import SqlCsvServer.Execution.AssignedIds
import SqlCsvServer.Execution.Footprint
import SqlCsvServer.Execution.Database
import SqlCsvServer.Execution.DatabaseRefinement
import SqlCsvServer.Execution.DatabaseRuns
import SqlCsvServer.Execution.Lifetimes
import SqlCsvServer.Engine.ErrorCode
import SqlCsvServer.Engine.Adapter
import SqlCsvServer.Engine.ParseErrors
import SqlCsvServer.Engine.LockManager
import SqlCsvServer.Engine.AdapterProgram
import SqlCsvServer.Engine.LockDiscipline
import SqlCsvServer.Engine.TableSerial
import SqlCsvServer.Engine.TwoTables
import SqlCsvServer.Engine.Linearization
import SqlCsvServer.Http.HttpRequest
import SqlCsvServer.Http.Framing
import SqlCsvServer.Http.HeadLines
import SqlCsvServer.Http.TransferEncoding
import SqlCsvServer.Http.RequestRoundTrip
import SqlCsvServer.Http.HttpResponse
import SqlCsvServer.Http.EscapeBuffers
import SqlCsvServer.Http.ResponseWire
import SqlCsvServer.Api.QueryHandler
import SqlCsvServer.Api.FlatObject
import SqlCsvServer.Api.FieldMemory
import SqlCsvServer.Api.JsonRoundTrip
import SqlCsvServer.Api.JsonSoundness
import SqlCsvServer.Api.ResponseBody
import SqlCsvServer.Api.Routes
import SqlCsvServer.Server.TaskQueue
import SqlCsvServer.Server.QueueRefinement
import SqlCsvServer.Server.Server
import SqlCsvServer.Server.Connections
import SqlCsvServer.Server.Wakeups
import SqlCsvServer.Server.Start
import SqlCsvServer.Server.HeaderChecks
import SqlCsvServer.Server.Requests
import SqlCsvServer.Server.Liveness
import SqlCsvServer.Server.Shutdown
import SqlCsvServer.Server.Lifecycle
import SqlCsvServer.Server.Ownership
import SqlCsvServer.App.Main
import SqlCsvServer.App.FrontEnds
import SqlCsvServer.App.ServerMain
import SqlCsvServer.App.Benchmark
