import MotionDetectAlarm.Foundation.Execution
import MotionDetectAlarm.Foundation.TransitionSystem
import MotionDetectAlarm.Foundation.Progress
import MotionDetectAlarm.Foundation.Simulation
import MotionDetectAlarm.Foundation.Bytes
import MotionDetectAlarm.Foundation.RingWindow
import MotionDetectAlarm.Foundation.Fifo
import MotionDetectAlarm.Foundation.Decimal
import MotionDetectAlarm.Foundation.Utf16
import MotionDetectAlarm.Foundation.Outlet
import MotionDetectAlarm.Foundation.Reorder
import MotionDetectAlarm.Foundation.Lines
import MotionDetectAlarm.Foundation.Framing
import MotionDetectAlarm.Foundation.Journal
import MotionDetectAlarm.Foundation.Separated
import MotionDetectAlarm.Foundation.Slice
import MotionDetectAlarm.Foundation.Flags
import MotionDetectAlarm.HikDev.AlarmRing
import MotionDetectAlarm.HikDev.Drain
import MotionDetectAlarm.HikDev.Overrun
import MotionDetectAlarm.HikDev.Interleaving
import MotionDetectAlarm.HikDev.Indices
import MotionDetectAlarm.HikDev.MacText
import MotionDetectAlarm.DataBase.Stores
import MotionDetectAlarm.DataBase.Loader
import MotionDetectAlarm.DataBase.Lookup
import MotionDetectAlarm.DataBase.Schema
import MotionDetectAlarm.SerialPort.Transcoder
import MotionDetectAlarm.SerialPort.Resync
import MotionDetectAlarm.SerialPort.Message
import MotionDetectAlarm.SerialPort.Seams
import MotionDetectAlarm.SerialPort.OutputQueue
import MotionDetectAlarm.SerialPort.Termios
import MotionDetectAlarm.SerialPort.Setup
import MotionDetectAlarm.SerialPort.LineReader
import MotionDetectAlarm.SerialPort.LineScan
import MotionDetectAlarm.SerialPort.LineStream
import MotionDetectAlarm.SerialPort.Modem
import MotionDetectAlarm.Csv.LineReader
import MotionDetectAlarm.Csv.Reader
import MotionDetectAlarm.Csv.Quote
import MotionDetectAlarm.Csv.File
import MotionDetectAlarm.Csv.Table
import MotionDetectAlarm.Csv.AsynchronousReader
import MotionDetectAlarm.Csv.ReadAhead
import MotionDetectAlarm.Csv.TwoThreads
import MotionDetectAlarm.Service.Startup
import MotionDetectAlarm.Service.Configuration
import MotionDetectAlarm.Service.ConfigFile
import MotionDetectAlarm.Service.MainLoop
import MotionDetectAlarm.Service.SendBuffer
import MotionDetectAlarm.Service.Notification
import MotionDetectAlarm.Service.Delivery
import MotionDetectAlarm.Service.Progress
import MotionDetectAlarm.Service.Safety
import MotionDetectAlarm.Service.Wire
import MotionDetectAlarm.Service.Subscription
import MotionDetectAlarm.Service.PidFile
import MotionDetectAlarm.Service.Program
import MotionDetectAlarm.Service.Lifecycle
import MotionDetectAlarm.Service.WholeRun
import MotionDetectAlarm.Service.EndToEnd
import MotionDetectAlarm.Service.Preemption
import MotionDetectAlarm.Service.Reduction
