import TcOtel.Ads.Recovery
import TcOtel.Service.SpanIsolation
import TcOtel.Plc.ContextMap
import TcOtel.Plc.SpanBegin
import TcOtel.Plc.ScopedContext
import TcOtel.Service.SpanEntries
import TcOtel.Ads.ConnectionRate
import TcOtel.Ads.DispatcherRoutes
import TcOtel.Ads.DispatcherCalls
import TcOtel.Ads.Response
import TcOtel.Plc.DiagWindows
import TcOtel.Plc.MetricHeader
import TcOtel.Plc.MetricPunctual
import TcOtel.Client.Reconcile
import TcOtel.Service.BridgeReloads
import TcOtel.Service.ScopeFreshness
import TcOtel.Service.LogPipeline
import TcOtel.Export.PayloadAgreement
import TcOtel.Ads.TracedEntries
import TcOtel.Plc.MetricLayout
import TcOtel.Plc.SendOrder
import TcOtel.Service.TaskNames
import TcOtel.Service.ConfigPosts
import TcOtel.Export.Gateway
import TcOtel.Plc.PendingFrame
import TcOtel.Service.DcTimes
import TcOtel.Service.CycleTime
