import Edutopik.Library.Machine
import Edutopik.Library.EventLoop
import Edutopik.Library.History
import Edutopik.Library.OneCall
import Edutopik.Library.Colony
import Edutopik.Library.Settling
import Edutopik.Library.Cursor
import Edutopik.Library.Numeral
import Edutopik.Library.Query
import Edutopik.Library.Regex
import Edutopik.Library.RegexWords
import Edutopik.Dart.Core
import Edutopik.Dart.Decimal
import Edutopik.Media.DataManager
import Edutopik.Media.FlickManager
import Edutopik.Media.PlayTime
import Edutopik.Media.MediaControl
import Edutopik.Media.PlayerTurns
import Edutopik.Media.SkipRuns
import Edutopik.Media.LectureCount
import Edutopik.Media.DuplicateViewing
import Edutopik.Media.ResumePoint
import Edutopik.Media.ResumeRoundTrip
import Edutopik.Media.SetPlayTime
import Edutopik.Media.InitPlayer
import Edutopik.Media.PlaybackSpeed
import Edutopik.Media.ClosedPlayer
import Edutopik.Media.Progress
import Edutopik.Media.Record
import Edutopik.Media.OnScreen
import Edutopik.Media.SelectedOnScreen
import Edutopik.Media.RouteStack
import Edutopik.Login.EmailPattern
import Edutopik.Login.EmailGrammar
import Edutopik.Login.LoginProc
import Edutopik.Login.Body
import Edutopik.Login.FormTurns
import Edutopik.Login.OneAccount
import Edutopik.Login.LoginScreen
import Edutopik.Login.SavedLogin
import Edutopik.Login.Admission
import Edutopik.Login.RejectedEmail
import Edutopik.Home.HomeScreen
import Edutopik.Home.HomeTurns
import Edutopik.Home.ChannelMessage
import Edutopik.Home.LectureList
import Edutopik.Home.Requests
import Edutopik.Home.Ledger
import Edutopik.Home.Messages
import Edutopik.Otp.DeviceInfo
import Edutopik.Otp.OtpForm
import Edutopik.Otp.OtpTurns
import Edutopik.Otp.CodeFields
import Edutopik.Otp.BoundAccount
import Edutopik.Otp.IssuedCode
import Edutopik.Otp.ConfirmedForm
import Edutopik.Otp.Submission
import Edutopik.Otp.DeviceFlow
import Edutopik.Otp.DeviceLimit
import Edutopik.Otp.StatusCodes
import Edutopik.App.Entrance
import Edutopik.App.Screens
import Edutopik.App.RouteStack
import Edutopik.App.OwnRoutes
import Edutopik.App.PlayerAlone
import Edutopik.App.DeviceIdentity
import Edutopik.App.Admissions
import Edutopik.App.LectureOrigin
import Edutopik.App.ReplacedDevices
import Edutopik.App.ComesToRest
