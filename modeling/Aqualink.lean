import Aqualink.Jandy.StatusFields
import Aqualink.Protocol.Resynchronisation
import Aqualink.Protocol.Sessions
import Aqualink.Developer.RecordedWrites
import Aqualink.Navigation.Termination
import Aqualink.Navigation.History
import Aqualink.Navigation.CrawlCompletion
import Aqualink.Navigation.CaptureAttribution
import Aqualink.Auth.ReuseTripwire
import Aqualink.Auth.LastAdmin
import Aqualink.Auth.LoginCredentials
import Aqualink.Auth.Lockout
import Aqualink.Auth.FailedSaves
import Aqualink.Auth.TokenVersions
import Aqualink.Auth.KioskRefresh
import Aqualink.Scheduling.Identity
import Aqualink.OneTouch.ValueEdit
import Aqualink.Equipment.LabelLookup
import Aqualink.Iaq.ChannelRelease
import Aqualink.Iaq.FreshButtons
import Aqualink.Iaq.SpaSwitchCommit
import Aqualink.Scheduling.VerifiedWrites
import Aqualink.OneTouch.Rediscovery
import Aqualink.Equipment.ExplicitRequests
import Aqualink.Iaq.HighlightedRow
import Aqualink.SerialAdapter.Delivery
import Aqualink.SerialAdapter.Handshake
import Aqualink.Equipment.NewestCommand
import Aqualink.Equipment.Boost
import Aqualink.Hub.Readings
import Aqualink.Hub.ActiveBody
import Aqualink.EquipmentCache.RoundTrip
import Aqualink.EquipmentCache.SaveOnChange
import Aqualink.Jandy.RawFrame
import Aqualink.Jandy.Outgoing
import Aqualink.Jandy.StringConverters
import Aqualink.Jandy.Scrapeable
import Aqualink.Jandy.Startup
import Aqualink.Pentair.OwnFrame
import Aqualink.Mqtt.DynamicTopics
import Aqualink.Http.RoutedRequests
import Aqualink.Http.AuthThrottle
import Aqualink.Http.ForwardedFor
import Aqualink.Http.PreferencesRestart
import Aqualink.Alerting.Sinks
import Aqualink.Alerting.StaleAlerts
import Aqualink.Http.LiveView
import Aqualink.Auth.GroupFile
import Aqualink.Http.SchedulePromotion
import Aqualink.History.DownSampling
import Aqualink.History.Filing
import Aqualink.MatterBridge.Commands
import Aqualink.SerialAdapter.PollRotation
import Aqualink.Spaside.RemoteDevice
import Aqualink.Mqtt.FailingDevices
import Aqualink.Mqtt.CanonicalSlugs
import Aqualink.Auxillaries.PresenceOverride
import Aqualink.Auxillaries.OrderFree
import Aqualink.OneTouch.SpaSwitchPicker
import Aqualink.Iaq.PercentageWrite
import Aqualink.OneTouch.ProgramEditor
import Aqualink.OneTouch.EditedRow
import Aqualink.OneTouch.ScreenPage
import Aqualink.OneTouch.SetpointVisits
import Aqualink.Utility.TimeoutDuration
import Aqualink.Utility.ValueDebouncer
import Aqualink.Utility.SlidingStatistics
import Aqualink.Utility.EndpointParser
